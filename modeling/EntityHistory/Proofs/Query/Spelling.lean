/-
The spelling of a comparison.

A comparison is written as a path, an operator and a literal. The path is an attribute, possibly one of its
sub-attributes, and then the unit, the data set or keys of a compound value. Several scans go over the same
text: one for parentheses and connectors, one for the operator, one for the parts of the path and one for the
parts of the literal. None of them is misled by what the texts in quotes hold, so the comparison is read as it
was spelled.

* `QueryTerm.Spelling.readComparison_chars`: the path, operator and literal are found and read;
* `QueryTerm.Spelling.ofText_chars`: a spelling is read as its comparison.
-/
import EntityHistory.Pattern.Reader
import EntityHistory.Proofs.Query.Literal
import EntityHistory.Proofs.Query.Path

namespace EntityHistory.QueryTerm

open Text (isBlank trim)

/-- A name that can stand in a path. -/
structure Name where
  text : String
  isName : IsName text.toList

/-- A key that can stand in brackets. -/
structure Key where
  text : String
  isKey : IsKey text.toList

/-- What follows the names of a path. -/
inductive Suffix where
  | none
  | unitCode
  | datasetId
  | keys (first : Key) (rest : List Key)

namespace Suffix

/-- What is compared. -/
def target : Suffix → ValueTarget
  | .none => .value
  | .unitCode => .unitCode
  | .datasetId => .datasetId
  | .keys first rest => .compoundKey ((first :: rest).map (·.text))

/-- The field of the system that a suffix adds to the names. -/
def fields : Suffix → List (List Char)
  | .none => []
  | .unitCode => ["unitCode".toList]
  | .datasetId => ["datasetId".toList]
  | .keys _ _ => []

/-- The keys that a suffix puts in brackets. -/
def keyTexts : Suffix → List (List Char)
  | .keys first rest => (first :: rest).map (·.text.toList)
  | _ => []

lemma isName_of_mem_fields {suffix : Suffix} {name : List Char} (h : name ∈ suffix.fields) : IsName name := by
  cases suffix with
  | none => cases h
  | unitCode =>
    obtain rfl := List.mem_singleton.1 h
    decide
  | datasetId =>
    obtain rfl := List.mem_singleton.1 h
    decide
  | keys first rest => cases h

lemma isKey_of_mem_keyTexts {suffix : Suffix} {key : List Char} (h : key ∈ suffix.keyTexts) : IsKey key := by
  cases suffix with
  | keys first rest =>
    obtain ⟨key, -, rfl⟩ := List.mem_map.1 h
    exact key.isKey
  | _ => cases h

lemma isTemporal_target (suffix : Suffix) : suffix.target.isTemporal = false := by
  cases suffix <;> rfl

end Suffix

/-- A comparison as it is written. -/
structure Spelling where
  name : Name
  subName : Option Name
  suffix : Suffix
  operator : Operator
  literal : Literal
  /-- A sub-attribute is not named like a field of the system. -/
  system?_eq_none : ∀ sub ∈ subName, ValueTarget.system? sub.text = none
  fits : literal.Fits operator suffix.target

namespace Spelling

/-- The names of the path. -/
def names (s : Spelling) : List (List Char) :=
  s.name.text.toList :: (s.subName.toList.map (·.text.toList) ++ s.suffix.fields)

/-- The path. -/
def path (s : Spelling) : List Char := pathText s.names s.suffix.keyTexts

/-- The whole text: path, operator and literal. -/
def chars (s : Spelling) : List Char := s.path ++ (s.operator.symbol.toList ++ s.literal.chars)

variable {s : Spelling} {context : Context} {attributeId : String} {subAttribute : Option String}

lemma isName_of_mem_names (s : Spelling) : ∀ name ∈ s.names, IsName name := by
  intro name h
  rw [names, List.mem_cons, List.mem_append, List.mem_map] at h
  rcases h with rfl | ⟨sub, -, rfl⟩ | h
  · exact s.name.isName
  · exact sub.isName
  · exact Suffix.isName_of_mem_fields h

lemma isKey_of_mem_keyTexts (s : Spelling) : ∀ key ∈ s.suffix.keyTexts, IsKey key :=
  fun _ h => Suffix.isKey_of_mem_keyTexts h

lemma pathOf_names (s : Spelling) : pathOf (s.names.map String.ofList)
    (if s.suffix.keyTexts = [] then none else some (s.suffix.keyTexts.map String.ofList)) =
      some ⟨s.name.text, s.subName.map (·.text), s.suffix.target⟩ := by
  obtain ⟨name, subName, suffix, operator, literal, hsystem, hfits⟩ := s
  have hunit : ValueTarget.system? "unitCode" = some .unitCode := rfl
  have hdataset : ValueTarget.system? "datasetId" = some .datasetId := rfl
  -- the second name is a field of the system, a sub-attribute, or missing, and the third is a field
  cases subName with
  | none =>
    cases suffix <;>
      simp [names, Suffix.fields, Suffix.keyTexts, Suffix.target, pathOf, hunit, hdataset, Function.comp_def]
  | some sub =>
    have hsub := hsystem sub rfl
    cases suffix <;>
      simp [names, Suffix.fields, Suffix.keyTexts, Suffix.target, pathOf, hunit, hdataset, hsub, Function.comp_def]

/-- The path is read as the names and the target it was spelled with. -/
lemma readPath_path (s : Spelling) :
    readPath s.path = .ok ⟨s.name.text, s.subName.map (·.text), s.suffix.target⟩ :=
  readPath_pathText (List.cons_ne_nil _ _) s.isName_of_mem_names s.isKey_of_mem_keyTexts s.pathOf_names

/-- A spelling holds its parentheses and connectors in quotes only. -/
lemma whole_chars (s : Spelling) : Whole s.chars := by
  have hsymbol : Whole s.operator.symbol.toList := by
    cases s.operator <;> rfl
  exact (whole_pathText s.isName_of_mem_names s.isKey_of_mem_keyTexts).append
    (hsymbol.append s.literal.whole_chars)

lemma plain_of_mem_path {c : Char} (h : c ∈ s.path) : isBlank c = false ∧ c ∉ queryMarks :=
  plain_of_mem_pathText s.isName_of_mem_names s.isKey_of_mem_keyTexts h

lemma path_ne_nil (s : Spelling) : s.path ≠ [] :=
  pathText_ne_nil (List.cons_ne_nil _ _) s.isName_of_mem_names s.suffix.keyTexts

lemma trim_path (s : Spelling) : trim s.path = s.path :=
  Text.trim_eq_self (fun _ hc => (plain_of_mem_path (List.mem_of_head? hc)).1)
    (fun _ hc => (plain_of_mem_path (List.mem_of_getLast? hc)).1)

/-- A spelling stands between two characters that are no blanks, and the first of them is no parenthesis. -/
lemma exists_chars_eq (s : Spelling) : ∃ p rest d,
    s.chars = p :: (rest ++ [d]) ∧ isBlank p = false ∧ p ≠ '(' ∧ isBlank d = false := by
  obtain ⟨c, inner, d, hliteral, -, -, hd⟩ := s.literal.exists_chars_eq
  obtain ⟨p, path, hpath⟩ := List.exists_cons_of_ne_nil s.path_ne_nil
  obtain ⟨hblank, hmark⟩ := plain_of_mem_path (hpath ▸ List.mem_cons_self : p ∈ s.path)
  refine ⟨p, path ++ (s.operator.symbol.toList ++ c :: inner), d, ?_, hblank, ?_, hd⟩
  · rw [chars, hpath, hliteral]
    simp
  · rintro rfl
    exact hmark (by decide)

lemma expand_path (hname : context.expand s.name.text = .ok attributeId)
    (hsub : s.subName.mapM (fun sub => context.expand sub.text) = .ok subAttribute) :
    Path.expand ⟨s.name.text, s.subName.map (·.text), s.suffix.target⟩ context =
      .ok (attributeId, subAttribute) := by
  have hexpand : Path.expand ⟨s.name.text, s.subName.map (·.text), s.suffix.target⟩ context =
      (s.subName.mapM fun sub => context.expand sub.text).map fun subAttribute => (attributeId, subAttribute) := by
    rw [Path.expand, hname]
    cases s.subName with
    | none => rfl
    | some sub =>
      change (context.expand sub.text >>= fun subId => pure (attributeId, some subId)) = _
      rw [Option.mapM_some]
      cases context.expand sub.text <;> rfl
  rw [hexpand, hsub]
  rfl

/-- The path, the operator and the literal are found, and read as they were spelled. -/
theorem readComparison_chars [PatternEngine] (hname : context.expand s.name.text = .ok attributeId)
    (hsub : s.subName.mapM (fun sub => context.expand sub.text) = .ok subAttribute) :
    readComparison context s.chars = .ok
      { attributeId, subAttribute, target := s.suffix.target, operator := s.operator,
        value := s.literal.value } := by
  obtain ⟨c, inner, d, hliteral, -, hc, -⟩ := s.literal.exists_chars_eq
  have hcut : cutOperator 0 s.chars = some (s.path, s.operator, s.literal.chars) := by
    rw [chars, hliteral]
    exact cutOperator_pathText_append s.isName_of_mem_names s.isKey_of_mem_keyTexts s.fits.isPattern_eq_false hc _
  have hpath : readPath (trim s.path) = .ok ⟨s.name.text, s.subName.map (·.text), s.suffix.target⟩ := by
    rw [trim_path, readPath_path]
  exact readComparison_eq_ok hcut hpath (expand_path hname hsub)
    (Literal.ofLiteral_chars s.suffix.isTemporal_target s.fits) (Literal.check_value s.fits)

lemma read_chars [PatternEngine] (s : Spelling) (hname : context.expand s.name.text = .ok attributeId)
    (hsub : s.subName.mapM (fun sub => context.expand sub.text) = .ok subAttribute) :
    read context s.chars = .ok (.comparison
      { attributeId, subAttribute, target := s.suffix.target, operator := s.operator,
        value := s.literal.value }) := by
  obtain ⟨p, rest, d, hchars, hblank, hp, hd⟩ := s.exists_chars_eq
  have htrim : trim s.chars = s.chars := by
    rw [hchars, Text.trim_between_marks hblank hd]
  have hopen : parenthesized s.chars = none := by
    refine Option.eq_none_iff_forall_ne_some.2 fun inner hinner => ?_
    obtain ⟨heq, -⟩ := parenthesized_eq_some_iff.1 hinner
    exact hp (List.cons.inj (hchars.symm.trans heq)).1
  have hne : s.chars ≠ [] := by
    rw [hchars]
    exact List.cons_ne_nil _ _
  have hread : read context s.chars = .comparison <$> readComparison context (trim s.chars) :=
    read_of_whole (htrim.symm ▸ hne) (htrim.symm ▸ hopen) (htrim.symm ▸ s.whole_chars)
  rw [hread, htrim, readComparison_chars hname hsub]
  rfl

/-- **A comparison is read as it was spelled.** The path, operator and literal of a comparison, written one after
the other, are read as the comparison with the full names, the target, the operator and the value: whatever
quotes, backslashes, separators, operators or brackets the texts in quotes hold. -/
theorem ofText_chars [PatternEngine] (s : Spelling) (hname : context.expand s.name.text = .ok attributeId)
    (hsub : s.subName.mapM (fun sub => context.expand sub.text) = .ok subAttribute) :
    ofText context (String.ofList s.chars) = .ok (.comparison
      { attributeId, subAttribute, target := s.suffix.target, operator := s.operator,
        value := s.literal.value }) := by
  rw [ofText, String.toList_ofList]
  exact s.read_chars hname hsub

/-- A spelling whose texts hold what a scan could take for the end of a string, an item or a range. -/
def misleading : Spelling where
  name := ⟨"p", by decide⟩
  subName := some ⟨"q", by decide⟩
  suffix := .keys ⟨"k=1", by decide⟩ [⟨"é", by decide⟩]
  operator := .notEqual
  literal := .list "\\" ["\",\"..", "é;|)]"]
  system?_eq_none := by
    rintro sub ⟨⟩
    rfl
  fits := rfl

theorem ofText_chars_misleading :
    ofText { terms := [("p", "urn:p"), ("q", "urn:q")] }
      "p.q[k=1][é]!=[\"\\\\\",\"\\\",\\\"..\",\"é;|)]\"]" = .ok (.comparison
        { attributeId := "urn:p", subAttribute := some "urn:q", target := .compoundKey ["k=1", "é"],
          operator := .notEqual, value := .list [.text "\\", .text "\",\"..", .text "é;|)]"] }) := by
  have htext : String.ofList misleading.chars =
      "p.q[k=1][é]!=[\"\\\\\",\"\\\",\\\"..\",\"é;|)]\"]" := rfl
  rw [← htext]
  exact misleading.ofText_chars rfl rfl

end Spelling

end EntityHistory.QueryTerm
