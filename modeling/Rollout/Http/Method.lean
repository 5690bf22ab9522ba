/-!
# Request methods
-/

namespace Rollout

inductive HttpMethod where
  | get
  | post
  | put
  | patch
  | delete
deriving DecidableEq, Inhabited

namespace HttpMethod

def text : HttpMethod → String
  | .get => "get"
  | .post => "post"
  | .put => "put"
  | .patch => "patch"
  | .delete => "delete"

def all : List HttpMethod := [.get, .post, .put, .patch, .delete]

end HttpMethod

end Rollout
