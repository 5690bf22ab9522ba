import Mathlib.Data.List.Chain
import Rollout.Proofs.Endpoint.Template
import Rollout.Proofs.Text.Split

/-!
# The grammar of templates

A template is written as a sequence of literal texts without braces and of names in braces. The
pieces found in a text are those of any such sequence, with literal texts that follow each other
put together. Where there is no such sequence, the fault is that of the first piece that is none.
-/

namespace Rollout

namespace TemplatePart

variable {c : Char} {cs rest bad : List Char} {part : TemplatePart}
  {pieces parts : List TemplatePart} {fault : TemplateFault}

def BraceFree (cs : List Char) : Prop := ∀ c ∈ cs, c ≠ '\x7b' ∧ c ≠ '\x7d'

/-- A piece of the grammar. -/
def WellFormed : TemplatePart → Prop
  | .literal text => BraceFree text.toList
  | .param name => BraceFree name.toList ∧ ∃ c ∈ name.toList, Text.isBlank c = false

/-- A text that is written in pieces of the grammar. -/
def Grammatical (cs : List Char) : Prop :=
  ∃ pieces, (∀ part ∈ pieces, part.WellFormed) ∧ cs = chars pieces

/-- What is wrong where a brace starts no name in braces. -/
inductive Malformed : TemplateFault → List Char → Prop where
  | unopened (rest : List Char) : Malformed .unopened ('\x7d' :: rest)
  | reopened (name rest : List Char) (hname : BraceFree name) :
      Malformed .unclosed ('\x7b' :: (name ++ '\x7b' :: rest))
  | unclosed (name : List Char) (hname : BraceFree name) : Malformed .unclosed ('\x7b' :: name)
  | blank (name rest : List Char) (hname : BraceFree name)
      (hblank : ∀ c ∈ name, Text.isBlank c = true) :
    Malformed .emptyParam ('\x7b' :: (name ++ '\x7d' :: rest))

/-- What is wrong with the first piece of a text that is none of the grammar. -/
def FirstFault (fault : TemplateFault) (cs : List Char) : Prop :=
  ∃ pieces bad, (∀ part ∈ pieces, part.WellFormed) ∧ cs = chars pieces ++ bad ∧
    Malformed fault bad

/-- Pieces of the grammar, of which no literal text is empty or follows another one. -/
structure Normal (parts : List TemplatePart) : Prop where
  wellFormed : ∀ part ∈ parts, part.WellFormed
  nonempty : .literal "" ∉ parts
  apart : parts.IsChain fun first next => ∀ before after,
    first = .literal before → next ≠ .literal after

/-- The texts from each opening brace to the next closing one. -/
def bracedNames (cs : List Char) : List String :=
  (cs.splitOn '\x7b').tail.map fun piece => String.ofList (piece.takeWhile (· ≠ '\x7d'))

/-! ## Pieces in front of others -/

/-- Puts a piece in front of others, literal text together with the literal text there. -/
def addPiece : TemplatePart → List TemplatePart → List TemplatePart
  | .literal text, parts => text.toList.foldr consLiteral parts
  | .param name, parts => .param name :: parts

theorem BraceFree.reverse (h : BraceFree cs) : BraceFree cs.reverse :=
  fun c hc => h c (List.mem_reverse.mp hc)

theorem BraceFree.open_not_mem (h : BraceFree cs) : '\x7b' ∉ cs := fun hc => (h _ hc).1 rfl

theorem wellFormed_cons {text : String} (hc : c ≠ '\x7b' ∧ c ≠ '\x7d')
    (htext : (literal text).WellFormed) :
    (literal (String.ofList (c :: text.toList))).WellFormed := by
  rw [WellFormed, String.toList_ofList]
  exact List.forall_mem_cons.mpr ⟨hc, htext⟩

theorem wellFormed_singleton (hc : c ≠ '\x7b' ∧ c ≠ '\x7d') :
    (literal (String.singleton c)).WellFormed := by
  rw [WellFormed, String.toList_singleton]
  exact List.forall_mem_singleton.mpr hc

theorem normal_nil : Normal [] := ⟨by simp, by simp, .nil⟩

theorem Normal.consLiteral (hc : c ≠ '\x7b' ∧ c ≠ '\x7d') (h : Normal parts) :
    Normal (consLiteral c parts) := by
  cases parts with
  | nil =>
    refine ⟨List.forall_mem_singleton.mpr (wellFormed_singleton hc), ?_, .singleton _⟩
    simp [TemplatePart.consLiteral]
  | cons part parts =>
    cases part with
    | literal text =>
      obtain ⟨htext, hparts⟩ := List.forall_mem_cons.mp h.wellFormed
      obtain ⟨happart, hchain⟩ := List.isChain_cons.mp h.apart
      refine ⟨List.forall_mem_cons.mpr ⟨wellFormed_cons hc htext, hparts⟩, ?_, ?_⟩
      · have hempty := List.not_mem_of_not_mem_cons h.nonempty
        simpa [TemplatePart.consLiteral] using hempty
      · refine List.isChain_cons.mpr ⟨fun next hnext before after _ => ?_, hchain⟩
        exact happart next hnext text after rfl
    | param name =>
      refine ⟨List.forall_mem_cons.mpr ⟨wellFormed_singleton hc, h.wellFormed⟩, ?_, ?_⟩
      · simpa [TemplatePart.consLiteral] using h.nonempty
      · exact List.isChain_cons_cons.mpr ⟨by simp, h.apart⟩

theorem Normal.foldr_consLiteral (hcs : BraceFree cs) (h : Normal parts) :
    Normal (cs.foldr TemplatePart.consLiteral parts) := by
  induction cs with
  | nil => exact h
  | cons c cs ih =>
    obtain ⟨hc, hcs⟩ := List.forall_mem_cons.mp hcs
    exact (ih hcs).consLiteral hc

theorem Normal.addPiece (hpart : part.WellFormed) (h : Normal parts) :
    Normal (part.addPiece parts) := by
  cases part with
  | literal text => exact h.foldr_consLiteral hpart
  | param name =>
    refine ⟨List.forall_mem_cons.mpr ⟨hpart, h.wellFormed⟩, ?_, ?_⟩
    · simpa [TemplatePart.addPiece] using h.nonempty
    · exact List.isChain_cons.mpr ⟨by simp, h.apart⟩

theorem normal_foldr_addPiece (h : ∀ part ∈ pieces, part.WellFormed) :
    Normal (pieces.foldr addPiece []) := by
  induction pieces with
  | nil => exact normal_nil
  | cons part pieces ih =>
    obtain ⟨hpart, hpieces⟩ := List.forall_mem_cons.mp h
    exact (ih hpieces).addPiece hpart

/-- Literal text in front of no other one is a piece of its own. -/
theorem foldr_consLiteral_eq_cons (hcs : cs ≠ [])
    (hparts : ∀ text, parts.head? ≠ some (.literal text)) :
    cs.foldr consLiteral parts = .literal (String.ofList cs) :: parts := by
  induction cs with
  | nil => exact absurd rfl hcs
  | cons c cs ih =>
    rw [List.foldr_cons]
    by_cases hrest : cs = []
    · subst hrest
      cases parts with
      | nil => rfl
      | cons part parts =>
        cases part with
        | literal text => exact absurd rfl (hparts text)
        | param name => rfl
    · rw [ih hrest, consLiteral, String.toList_ofList]

theorem Normal.addPiece_eq (h : Normal (part :: parts)) : part.addPiece parts = part :: parts := by
  cases part with
  | literal text =>
    have hne : text.toList ≠ [] := by
      intro hempty
      obtain rfl : text = "" := String.toList_eq_nil_iff.mp hempty
      exact h.nonempty List.mem_cons_self
    have happart : ∀ after, parts.head? ≠ some (.literal after) := fun after hafter =>
      (List.isChain_cons.mp h.apart).1 _ hafter text after rfl rfl
    rw [TemplatePart.addPiece, foldr_consLiteral_eq_cons hne happart, String.ofList_toList]
  | param name => rfl

theorem Normal.of_cons (h : Normal (part :: parts)) : Normal parts :=
  ⟨(List.forall_mem_cons.mp h.wellFormed).2, List.not_mem_of_not_mem_cons h.nonempty,
    h.apart.of_cons⟩

theorem Normal.foldr_addPiece_eq (h : Normal parts) :
    parts.foldr TemplatePart.addPiece [] = parts := by
  induction parts with
  | nil => rfl
  | cons part parts ih => rw [List.foldr_cons, ih h.of_cons, h.addPiece_eq]

/-! ## Scanning -/

theorem scan_literal (hcs : BraceFree cs) :
    scan none (cs ++ rest) = (scan none rest).map (cs.foldr consLiteral) := by
  induction cs with
  | nil => cases hrest : scan none rest <;> simp [hrest, Except.map]
  | cons c cs ih =>
    obtain ⟨⟨hopen, hclose⟩, hcs⟩ := List.forall_mem_cons.mp hcs
    rw [List.cons_append, scan, if_neg hopen, if_neg hclose, ih hcs]
    cases scan none rest <;> rfl

theorem scan_name {name : List Char} (hcs : BraceFree cs) :
    scan (some name) (cs ++ rest) = scan (some (cs.reverse ++ name)) rest := by
  induction cs generalizing name with
  | nil => rfl
  | cons c cs ih =>
    obtain ⟨⟨hopen, hclose⟩, hcs⟩ := List.forall_mem_cons.mp hcs
    rw [List.cons_append, scan, if_neg hopen, if_neg hclose, ih hcs, List.reverse_cons,
      List.append_assoc, List.singleton_append]

theorem scan_open {name : List Char} (hname : BraceFree name) :
    scan none ('\x7b' :: (name ++ rest)) = scan (some name.reverse) rest := by
  rw [scan, if_pos rfl, scan_name hname, List.append_nil]

theorem scan_piece (hpart : part.WellFormed) :
    scan none (part.text.toList ++ rest) = (scan none rest).map part.addPiece := by
  cases part with
  | literal text => exact scan_literal hpart
  | param name =>
    obtain ⟨hname, c, hc, hink⟩ := hpart
    have hblank : ¬name.toList.reverse.all Text.isBlank = true := fun hall => by
      have hcblank := List.all_eq_true.mp hall c (List.mem_reverse.mpr hc)
      rw [hink] at hcblank
      cases hcblank
    have htext : (param name).text.toList ++ rest = '\x7b' :: (name.toList ++ '\x7d' :: rest) := by
      simp [text]
    rw [htext, scan_open hname, scan, if_neg (by decide), if_pos rfl, if_neg hblank,
      List.reverse_reverse, String.ofList_toList]
    rfl

theorem scan_pieces (h : ∀ part ∈ pieces, part.WellFormed) :
    scan none (chars pieces ++ rest) = (scan none rest).map (pieces.foldr addPiece) := by
  induction pieces with
  | nil => cases hrest : scan none rest <;> simp [hrest, Except.map]
  | cons part pieces ih =>
    obtain ⟨hpart, hpieces⟩ := List.forall_mem_cons.mp h
    rw [chars_cons, List.append_assoc, scan_piece hpart, ih hpieces]
    cases scan none rest <;> rfl

theorem scan_chars (h : ∀ part ∈ pieces, part.WellFormed) :
    scan none (chars pieces) = .ok (pieces.foldr addPiece []) := by
  rw [← List.append_nil (chars pieces), scan_pieces h]
  rfl

theorem scan_malformed (h : Malformed fault bad) : scan none bad = .error fault := by
  cases h with
  | unopened rest => rfl
  | reopened name rest hname => rw [scan_open hname, scan, if_pos rfl]
  | unclosed name hname => rw [← List.append_nil name, scan_open hname, scan]
  | blank name rest hname hblank =>
    have hall : name.reverse.all Text.isBlank = true :=
      List.all_eq_true.mpr fun c hc => hblank c (List.mem_reverse.mp hc)
    rw [scan_open hname, scan, if_neg (by decide), if_pos rfl, if_pos hall]

theorem Malformed.firstFault (h : Malformed fault bad) : FirstFault fault bad :=
  ⟨[], bad, by simp, rfl, h⟩

/-- A piece of the grammar in front of a text leaves it grammatical, or its first fault the same. -/
theorem grammatical_or_firstFault_append (hpart : part.WellFormed)
    (h : Grammatical rest ∨ ∃ fault, FirstFault fault rest) :
    Grammatical (part.text.toList ++ rest) ∨
      ∃ fault, FirstFault fault (part.text.toList ++ rest) := by
  obtain ⟨pieces, hpieces, rfl⟩ | ⟨fault, pieces, bad, hpieces, rfl, hbad⟩ := h
  · exact .inl ⟨part :: pieces, List.forall_mem_cons.mpr ⟨hpart, hpieces⟩, rfl⟩
  · refine .inr ⟨fault, part :: pieces, bad, List.forall_mem_cons.mpr ⟨hpart, hpieces⟩, ?_, hbad⟩
    rw [chars_cons, List.append_assoc]

-- By recursion on the text as it is scanned, so that what was read of a name goes along.
theorem grammatical_or_firstFault (name : Option (List Char))
    (hname : ∀ read ∈ name, BraceFree read) (cs : List Char) :
    Grammatical (openChars name ++ cs) ∨ ∃ fault, FirstFault fault (openChars name ++ cs) := by
  induction cs generalizing name with
  | nil =>
    cases name with
    | none => exact .inl ⟨[], by simp, rfl⟩
    | some read =>
      have hread : BraceFree read.reverse := (hname read rfl).reverse
      rw [List.append_nil]
      exact .inr ⟨_, (Malformed.unclosed _ hread).firstFault⟩
  | cons c rest ih =>
    cases name with
    | none =>
      by_cases hopen : c = '\x7b'
      · subst hopen
        exact ih (some []) (by simp [BraceFree])
      by_cases hclose : c = '\x7d'
      · subst hclose
        exact .inr ⟨_, (Malformed.unopened rest).firstFault⟩
      have hliteral := wellFormed_singleton ⟨hopen, hclose⟩
      have hrest := ih none (by simp)
      simpa [text, openChars] using grammatical_or_firstFault_append hliteral hrest
    | some read =>
      have hread : BraceFree read.reverse := (hname read rfl).reverse
      by_cases hopen : c = '\x7b'
      · subst hopen
        exact .inr ⟨_, (Malformed.reopened _ rest hread).firstFault⟩
      by_cases hclose : c = '\x7d'
      · subst hclose
        by_cases hblank : ∀ c ∈ read.reverse, Text.isBlank c = true
        · exact .inr ⟨_, (Malformed.blank _ rest hread hblank).firstFault⟩
        have hparam : (param (String.ofList read.reverse)).WellFormed :=
          ⟨by simpa using hread, by simpa using hblank⟩
        have hrest := ih none (by simp)
        simpa [text, openChars] using grammatical_or_firstFault_append hparam hrest
      have hlonger : BraceFree (c :: read) :=
        List.forall_mem_cons.mpr ⟨⟨hopen, hclose⟩, hname read rfl⟩
      have hrest := ih (some (c :: read)) (by simpa using hlonger)
      simpa [openChars] using hrest

theorem scan_of_firstFault (h : FirstFault fault cs) : scan none cs = .error fault := by
  obtain ⟨pieces, bad, hpieces, rfl, hbad⟩ := h
  rw [scan_pieces hpieces, scan_malformed hbad]
  rfl

theorem scan_eq_ok_iff : scan none cs = .ok parts ↔ chars parts = cs ∧ Normal parts := by
  constructor
  · intro h
    refine ⟨chars_of_scan h, ?_⟩
    have hcs : Grammatical cs ∨ ∃ fault, FirstFault fault cs :=
      grammatical_or_firstFault none (by simp) cs
    obtain ⟨pieces, hpieces, rfl⟩ | ⟨fault, hfault⟩ := hcs
    · rw [scan_chars hpieces] at h
      obtain rfl := Except.ok.inj h
      exact normal_foldr_addPiece hpieces
    · rw [scan_of_firstFault hfault] at h
      cases h
  · rintro ⟨rfl, h⟩
    rw [scan_chars h.wellFormed, h.foldr_addPiece_eq]

theorem scan_eq_error_iff : scan none cs = .error fault ↔ FirstFault fault cs := by
  refine ⟨fun h => ?_, scan_of_firstFault⟩
  have hcs : Grammatical cs ∨ ∃ fault, FirstFault fault cs :=
    grammatical_or_firstFault none (by simp) cs
  obtain ⟨pieces, hpieces, rfl⟩ | ⟨found, hfound⟩ := hcs
  · rw [scan_chars hpieces] at h
    cases h
  · rw [scan_of_firstFault hfound] at h
    obtain rfl := Except.error.inj h
    exact hfound

/-! ## Names in braces -/

theorem bracedNames_literal (hcs : BraceFree cs) : bracedNames (cs ++ rest) = bracedNames rest := by
  rw [bracedNames, Text.splitOn_append_of_not_mem hcs.open_not_mem, List.tail_modifyHead]
  rfl

theorem bracedNames_param {name : List Char} (hname : BraceFree name) :
    bracedNames ('\x7b' :: (name ++ '\x7d' :: rest)) =
      String.ofList name :: bracedNames rest := by
  have hinside : ∀ c ∈ name, decide (c ≠ '\x7d') = true := fun c hc =>
    decide_eq_true (hname c hc).2
  obtain ⟨first, others, hrest⟩ := List.exists_cons_of_ne_nil (List.splitOn_ne_nil '\x7b' rest)
  rw [bracedNames, List.splitOn_cons_eq_if_modifyHead, if_pos (beq_self_eq_true _), List.tail_cons,
    Text.splitOn_append_of_not_mem hname.open_not_mem, List.splitOn_cons_eq_if_modifyHead, if_neg (by decide), hrest,
    List.modifyHead_cons, List.modifyHead_cons, List.map_cons,
    List.takeWhile_append_of_pos hinside, List.takeWhile_cons_of_neg (by decide), List.append_nil,
    bracedNames, hrest, List.tail_cons]

theorem params_eq_bracedNames (h : ∀ part ∈ pieces, part.WellFormed) :
    UrlTemplate.params ⟨pieces⟩ = bracedNames (chars pieces) := by
  induction pieces with
  | nil => decide
  | cons part pieces ih =>
    obtain ⟨hpart, hpieces⟩ := List.forall_mem_cons.mp h
    cases part with
    | literal text => exact (ih hpieces).trans (bracedNames_literal hpart).symm
    | param name =>
      have htext : chars (param name :: pieces) =
          '\x7b' :: (name.toList ++ '\x7d' :: chars pieces) := by simp [text]
      rw [htext, bracedNames_param hpart.1, ← ih hpieces, String.ofList_toList]
      rfl

end TemplatePart

namespace UrlTemplate

open TemplatePart

variable {text : String} {template : UrlTemplate} {error : TemplateError}

theorem ofText_eq_ok_iff :
    ofText text = .ok template ↔ template.text = text ∧ Normal template.parts := by
  rw [← String.toList_inj, toList_text, ← scan_eq_ok_iff, ofText]
  cases scan none text.toList with
  | ok parts =>
    constructor
    · rintro ⟨⟩
      rfl
    · rintro ⟨⟩
      rfl
  | error fault => simp

theorem ofText_eq_error_iff :
    ofText text = .error error ↔ error.text = text ∧ FirstFault error.fault text.toList := by
  rw [← scan_eq_error_iff, ofText]
  cases scan none text.toList with
  | ok parts => simp
  | error fault =>
    constructor
    · rintro ⟨⟩
      exact ⟨rfl, rfl⟩
    · rintro ⟨rfl, hfault⟩
      obtain rfl := Except.error.inj hfault
      rfl

/-- A text is a template if and only if it is a sequence of pieces of the grammar. The parts write
the text again, with nothing in them that could be left out or put together, and the placeholders
are the names in braces. A text that is no template is reported for its first piece that is none of
the grammar. -/
theorem ofText_follows_grammar (text : String) :
    ((∃ template, ofText text = .ok template) ↔ Grammatical text.toList) ∧
    (∀ template, ofText text = .ok template ↔ template.text = text ∧ Normal template.parts) ∧
    (∀ template, ofText text = .ok template → template.params = bracedNames text.toList) ∧
    ∀ error, ofText text = .error error ↔
      error.text = text ∧ FirstFault error.fault text.toList := by
  refine ⟨⟨?_, ?_⟩, fun _ => ofText_eq_ok_iff, fun template h => ?_, fun _ => ofText_eq_error_iff⟩
  · rintro ⟨template, h⟩
    obtain ⟨rfl, hnormal⟩ := ofText_eq_ok_iff.mp h
    exact ⟨template.parts, hnormal.wellFormed, toList_text⟩
  · rintro ⟨pieces, hpieces, htext⟩
    have hscan := scan_chars hpieces
    rw [← htext] at hscan
    exact ⟨⟨_⟩, by rw [ofText, hscan]⟩
  · obtain ⟨rfl, hnormal⟩ := ofText_eq_ok_iff.mp h
    rw [toList_text]
    exact params_eq_bracedNames hnormal.wellFormed

example : ofText "/\x7b \x7d/\x7bid" = .error ⟨.emptyParam, "/\x7b \x7d/\x7bid"⟩ := by decide

end UrlTemplate

end Rollout
