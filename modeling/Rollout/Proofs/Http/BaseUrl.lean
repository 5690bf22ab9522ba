import Mathlib.Data.List.DropRight
import Rollout.Http.Client
import Rollout.Proofs.Request.UrlText

/-!
# The base of a URL

A URL without a scheme is asked for below the base URL. The values that are filled into a URL give
it no scheme, so that the host is a matter of the base URL and the templates alone.
-/

namespace Rollout

namespace Http.Client

variable {client : Client} {url : String}

/-- A URL that names a host itself. -/
def IsAbsolute (url : String) : Prop :=
  "http://".toList <+: url.toList ∨ "https://".toList <+: url.toList

theorem not_isAbsolute (h : ':' ∉ url.toList) : ¬ IsAbsolute url := by
  rintro (hstart | hstart) <;> exact h (hstart.subset (by decide))

/-- A URL that is not absolute comes after the base, with one slash between them. -/
theorem exists_fullUrl (client : Client) (h : ¬ IsAbsolute url) : ∃ rest,
    (client.fullUrl url).toList = client.baseUrl.toList ++ '/' :: rest ∧
      (url.toList = '/' :: rest ∨ url.toList = rest) := by
  have hstart : ¬ ("http://".toList.isPrefixOf url.toList ||
      "https://".toList.isPrefixOf url.toList) = true := by
    rwa [Bool.or_eq_true, List.isPrefixOf_iff_prefix, List.isPrefixOf_iff_prefix]
  have hfull : client.fullUrl url = if "/".toList.isPrefixOf url.toList = true then
      client.baseUrl ++ url else client.baseUrl ++ "/" ++ url := if_neg hstart
  by_cases hslash : "/".toList.isPrefixOf url.toList = true
  · obtain ⟨rest, hrest⟩ := List.isPrefixOf_iff_prefix.mp hslash
    refine ⟨rest, ?_, .inl hrest.symm⟩
    rw [hfull, if_pos hslash, String.toList_append, ← hrest]
    rfl
  · refine ⟨url.toList, ?_, .inr rfl⟩
    rw [hfull, if_neg hslash, String.toList_append, String.toList_append, List.append_assoc]
    rfl

theorem toList_baseUrl (baseUrl : String) (headers : List Header) :
    (ofBase baseUrl headers).baseUrl.toList = baseUrl.toList.rdropWhile (· = '/') :=
  String.toList_ofList

end Http.Client

namespace UrlTemplate

open Http (Client)

variable {template : UrlTemplate} {params : Table FieldPath} {entity : Entity} {built : BuiltUrl}

/-- Where no literal text has a colon, a URL that is filled in names no host, and is asked for below
the base URL. -/
theorem fullUrl_fill_below_base (baseUrl : String) (headers : List Header)
    (hcolon : ':' ∉ template.literalChars)
    (hbuilt : (template.fill params entity).outcome = .ok built) :
    ¬ Client.IsAbsolute built.url ∧
      baseUrl.toList.rdropWhile (· = '/') ++ ['/'] <+:
        ((Client.ofBase baseUrl headers).fullUrl built.url).toList := by
  have hrelative : ¬ Client.IsAbsolute built.url :=
    Client.not_isAbsolute (not_mem_url hbuilt (by decide) hcolon)
  refine ⟨hrelative, ?_⟩
  obtain ⟨rest, hrest, _⟩ := Client.exists_fullUrl (Client.ofBase baseUrl headers) hrelative
  rw [hrest, Client.toList_baseUrl, List.prefix_append_right_inj]
  exact ⟨rest, rfl⟩

/-- The template itself starts with a scheme up to the colon, which is the value. -/
theorem fullUrl_fill_below_base_schemeInValue :
    let template : UrlTemplate := ⟨[.literal "http", .param "id", .literal "//", .param "key"]⟩
    let built : BuiltUrl := ⟨"http%3A//a%2Fb%3F%C3%A9", ["id", "key"]⟩
    ':' ∉ template.literalChars ∧
    (template.fill Table.empty (markedKey (.string ":"))).outcome = .ok built ∧
    ¬ Client.IsAbsolute built.url ∧
    "https://api.test/".toList <+:
      ((Client.ofBase "https://api.test///" []).fullUrl built.url).toList := by
  intro template built
  have hcolon : ':' ∉ template.literalChars := by decide
  have hbuilt : (template.fill Table.empty (markedKey (.string ":"))).outcome = .ok built := by
    decide
  exact ⟨hcolon, hbuilt, fullUrl_fill_below_base "https://api.test///" [] hcolon hbuilt⟩

end UrlTemplate

end Rollout
