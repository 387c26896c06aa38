/-
Links to other pages.

A link to another page keeps the parts of a query string and replaces its page anchor. Which parts give the
anchor is told in two ways: the link looks for the written name with an equals sign after it, and a request
for the name that a part reads as. If both agree, the link gives the parameters of the request with the other
anchor, whatever the anchor holds. If not, the link gives the anchor twice, and no request can be read from it.

* `formPairs_pageQuery`: the names and values that a link gives;
* `Parameters.ofPairs?_replace`: parameters that differ in the anchor only;
* `pageLink_gives_parameters_iff`: when a link gives the parameters it should.
-/
import EntityHistory.Http.Form
import EntityHistory.Http.Link
import EntityHistory.Proofs.Text.Percent
import EntityHistory.Proofs.Text.Pieces

namespace EntityHistory

open Text

variable {query : Option (List Char)} {cs part value : List Char} {pairs pairs' : List (String × String)}
  {name anchor : String} {p : Parameters}

/-! ### Names and values -/

/-- The name and value that a part of a query string reads as. -/
def formPair (part : List Char) : String × String :=
  let (name, value) := (cutOnce '=' part).getD (part, [])
  (String.ofList (ofForm name), String.ofList (ofForm value))

lemma formPairs_eq (cs : List Char) : formPairs cs = ((pieces '&' cs).filter (· ≠ [])).map formPair := rfl

/-- Whatever follows the name of the anchor and an equals sign is its value. -/
lemma formPair_pageAnchor (value : List Char) :
    formPair ("pageAnchor=".toList ++ value) = ("pageAnchor", String.ofList (ofForm value)) := by
  have hcut : cutOnce '=' ("pageAnchor=".toList ++ value) = some ("pageAnchor".toList, value) := rfl
  have hname : ofForm "pageAnchor".toList = "pageAnchor".toList := ofForm_percentEncode "pageAnchor".toList
  rw [formPair, hcut, Option.getD_some]
  show (String.ofList (ofForm "pageAnchor".toList), _) = _
  rw [hname, String.ofList_toList]

/-- The written form of an anchor is read as the anchor. -/
lemma formPair_percentEncode (anchor : String) :
    formPair ("pageAnchor=".toList ++ percentEncode anchor.toList) = ("pageAnchor", anchor) := by
  rw [formPair_pageAnchor, ofForm_percentEncode, String.ofList_toList]

lemma formPair_nil : formPair [] = ("", "") := by
  have hnil : ofForm [] = [] := ofForm_percentEncode []
  rw [formPair, cutOnce, Option.getD_none]
  show (String.ofList (ofForm []), String.ofList (ofForm [])) = _
  rw [hnil, String.ofList_nil]

/-- The value of a name depends on what is given for this name only. -/
lemma formValue_congr
    (h : (pairs.filter fun pair => pair.1 = name) = pairs'.filter fun pair => pair.1 = name) :
    formValue pairs name = formValue pairs' name := by
  rw [formValue, formValue, h]

/-! ### The query string of a link -/

/-- A part is kept that is not empty and does not begin with the name of the anchor and an equals sign. -/
lemma mem_keptPairs : part ∈ keptPairs query ↔
    part ∈ pieces '&' (query.getD []) ∧ part ≠ [] ∧ ∀ value, part ≠ "pageAnchor=".toList ++ value := by
  rw [keptPairs, List.mem_filter, Bool.and_eq_true, decide_eq_true_eq, Option.isNone_iff_eq_none,
    Option.eq_none_iff_forall_ne_some]
  simp only [ne_eq, afterPhrase_eq_some_iff]

/-- A link gives what it keeps and the anchor. -/
theorem formPairs_pageQuery (query : Option (List Char)) (anchor : String) :
    formPairs (pageQuery query anchor) = (keptPairs query).map formPair ++ [("pageAnchor", anchor)] := by
  let added := "pageAnchor=".toList ++ percentEncode anchor.toList
  have hseparator : ∀ part ∈ keptPairs query ++ [added], '&' ∉ part := by
    intro part hpart
    rcases List.mem_append.1 hpart with hpart | hpart
    · exact not_mem_of_mem_pieces (mem_keptPairs.1 hpart).1
    · rw [List.mem_singleton.1 hpart, List.mem_append, not_or]
      exact ⟨by decide, not_mem_percentEncode (by decide) _⟩
  have hne : ∀ part ∈ keptPairs query ++ [added], decide (part ≠ []) = true := by
    intro part hpart
    rcases List.mem_append.1 hpart with hpart | hpart
    · exact decide_eq_true (mem_keptPairs.1 hpart).2.1
    · rw [List.mem_singleton.1 hpart]
      rfl
  rw [formPairs_eq, pageQuery, pieces_joinWith (by simp) hseparator, List.filter_eq_self.2 hne, List.map_append,
    List.map_singleton, formPair_percentEncode]

/-- For other names a link gives what the query string gives. -/
lemma formValue_pageQuery (hname : name ≠ "pageAnchor") :
    formValue (formPairs (pageQuery query anchor)) name = formValue (formPairs (query.getD [])) name := by
  refine formValue_congr ?_
  have hadded : ([("pageAnchor", anchor)].filter fun pair : String × String => pair.1 = name) = [] := by
    simpa using Ne.symm hname
  rw [formPairs_pageQuery, List.filter_append, hadded, List.append_nil, formPairs_eq, List.filter_map,
    List.filter_map, keptPairs, List.filter_filter, List.filter_filter]
  refine congrArg (List.map formPair) (List.filter_congr fun part _ => ?_)
  -- what is left out has the name of the anchor
  cases hafter : afterPhrase "pageAnchor=".toList part with
  | none => simp
  | some value =>
    have hother : (formPair part).1 ≠ name := by
      rw [afterPhrase_eq_some_iff.1 hafter, formPair_pageAnchor]
      exact Ne.symm hname
    simp [hother]

/-! ### Parameters -/

lemma bind_eq_map_bind {α β : Type} {o : Option α} {f g : α → Option β} {h : β → β}
    (heq : ∀ a, f a = (g a).map h) : o >>= f = (o >>= g).map h := by
  cases o with
  | none => rfl
  | some a => exact heq a

/-- Parameters are made of the values of their names, so those that differ in the anchor only are the same but
for the anchor. -/
lemma Parameters.ofPairs?_replace {v v' : Option String}
    (hothers : ∀ name, name ≠ "pageAnchor" → formValue pairs' name = formValue pairs name)
    (hv : formValue pairs "pageAnchor" = some v) (hv' : formValue pairs' "pageAnchor" = some v') :
    ofPairs? pairs' = (ofPairs? pairs).map fun p => { p with pageAnchor := v' } := by
  have hgiven : ∀ name, formValue pairs' name = if name = "pageAnchor" then some v' else formValue pairs name := by
    intro name
    split
    · rename_i hname
      rw [hname, hv']
    · rename_i hname
      exact hothers name hname
  simp only [ofPairs?, hgiven, hv, String.reduceEq, reduceIte]
  -- the values before the anchor agree, and then those after it
  repeat refine bind_eq_map_bind fun _ => ?_
  rw [Option.bind_eq_bind, Option.bind_some, Option.bind_eq_bind, Option.bind_some]
  repeat refine bind_eq_map_bind fun _ => ?_
  rfl

/-- Without a value for the anchor there are no parameters. -/
lemma Parameters.ofPairs?_eq_none (h : formValue pairs "pageAnchor" = none) : ofPairs? pairs = none := by
  simp [ofPairs?, h]

/-! ### Following a link -/

/-- Each part of a query string that reads as an anchor has the name of the anchor and an equals sign written
out. -/
def WritesAnchorOut (cs : List Char) : Prop :=
  ∀ part ∈ pieces '&' cs, (formPair part).1 = "pageAnchor" → ∃ value, part = "pageAnchor=".toList ++ value

/-- In this case a link keeps no part that reads as an anchor. -/
lemma writesAnchorOut_iff : WritesAnchorOut (query.getD []) ↔
    ((keptPairs query).map formPair).filter (fun pair => pair.1 = "pageAnchor") = [] := by
  rw [List.filter_eq_nil_iff, List.forall_mem_map]
  simp only [mem_keptPairs, decide_eq_true_eq]
  constructor
  · rintro hout part ⟨hpart, -, hother⟩ hname
    obtain ⟨value, hvalue⟩ := hout part hpart hname
    exact hother value hvalue
  · intro hkept part hpart hname
    refine Classical.byContradiction fun hother => ?_
    refine hkept part ⟨hpart, ?_, fun value hvalue => hother ⟨value, hvalue⟩⟩ hname
    rintro rfl
    rw [formPair_nil] at hname
    exact absurd hname (by decide)

/-- The link gives the anchor once just when it keeps no part that reads as an anchor. -/
lemma formValue_pageQuery_pageAnchor (query : Option (List Char)) (anchor : String) :
    formValue (formPairs (pageQuery query anchor)) "pageAnchor" =
      if ((keptPairs query).map formPair).filter (fun pair => pair.1 = "pageAnchor") = [] then
        some (some anchor)
      else none := by
  have hadded : ([("pageAnchor", anchor)].filter fun pair : String × String => pair.1 = "pageAnchor") =
      [("pageAnchor", anchor)] := rfl
  rw [formValue, formPairs_pageQuery, List.filter_append, hadded]
  generalize ((keptPairs query).map formPair).filter (fun pair => pair.1 = "pageAnchor") = kept
  match kept with
  | [] => rfl
  | [_] => rfl
  | _ :: _ :: _ => rfl

/-- **When a link to another page can be followed.**  If a query string gives parameters, a link to the page at
an anchor has a query string that gives these parameters with the other anchor just when each part of the first
one that reads as an anchor is written out; else it gives none. The characters of the anchor do not matter. -/
theorem pageLink_gives_parameters_iff (path : String) (query : Option (List Char)) (anchor relation : String)
    (p : Parameters) (hp : Parameters.ofQuery? (query.getD []) = some p) :
    ∃ link : List Char,
      pageLink path query anchor relation =
        "<" ++ path ++ "?" ++ String.ofList link ++ ">; rel=\"" ++ relation ++ "\"" ∧
      (Parameters.ofQuery? link = some { p with pageAnchor := some anchor } ↔
        WritesAnchorOut (query.getD [])) ∧
      (¬ WritesAnchorOut (query.getD []) → Parameters.ofQuery? link = none) := by
  refine ⟨pageQuery query anchor, rfl, ?_⟩
  have hothers : ∀ name, name ≠ "pageAnchor" →
      formValue (formPairs (pageQuery query anchor)) name = formValue (formPairs (query.getD [])) name :=
    fun name hname => formValue_pageQuery hname
  have hnone : ¬ WritesAnchorOut (query.getD []) → Parameters.ofQuery? (pageQuery query anchor) = none := by
    intro hout
    refine Parameters.ofPairs?_eq_none ?_
    rw [formValue_pageQuery_pageAnchor, if_neg (mt writesAnchorOut_iff.2 hout)]
  refine ⟨⟨fun hlink => ?_, fun hout => ?_⟩, hnone⟩
  · refine Classical.byContradiction fun hout => ?_
    rw [hnone hout] at hlink
    cases hlink
  · obtain ⟨v, hv⟩ : ∃ v, formValue (formPairs (query.getD [])) "pageAnchor" = some v := by
      refine Option.ne_none_iff_exists'.1 fun hnone => ?_
      rw [Parameters.ofQuery?, Parameters.ofPairs?_eq_none hnone] at hp
      cases hp
    have hv' : formValue (formPairs (pageQuery query anchor)) "pageAnchor" = some (some anchor) := by
      rw [formValue_pageQuery_pageAnchor, if_pos (writesAnchorOut_iff.1 hout)]
    rw [Parameters.ofQuery?] at hp ⊢
    rw [Parameters.ofPairs?_replace hothers hv hv', hp]
    rfl

/-- A query string with a page anchor that is written out. -/
def writtenOut : List Char := "pageAnchor=urn:a&pageSize=2".toList

lemma ofQuery?_writtenOut :
    Parameters.ofQuery? writtenOut = some { pageAnchor := some "urn:a", pageSize := some 2 } := by decide +kernel

lemma writesAnchorOut_writtenOut : WritesAnchorOut writtenOut := by
  have hpieces : pieces '&' writtenOut = ["pageAnchor=urn:a".toList, "pageSize=2".toList] := rfl
  have hother : (formPair "pageSize=2".toList).1 = "pageSize" := by decide +kernel
  intro part hpart hname
  rw [hpieces] at hpart
  rcases List.mem_cons.1 hpart with rfl | hpart
  · exact ⟨"urn:a".toList, rfl⟩
  · rw [List.mem_singleton.1 hpart, hother] at hname
    exact absurd hname (by decide)

/-- The marks of forms and characters of several bytes in an anchor do no harm. -/
theorem pageLink_gives_parameters_writtenOut :
    Parameters.ofQuery? writtenOut = some { pageAnchor := some "urn:a", pageSize := some 2 } ∧
    ∃ link : List Char,
      pageLink "/p" (some writtenOut) "a&b=c+d%41 ü€" "next" =
        "<" ++ "/p" ++ "?" ++ String.ofList link ++ ">; rel=\"" ++ "next" ++ "\"" ∧
      Parameters.ofQuery? link = some { pageAnchor := some "a&b=c+d%41 ü€", pageSize := some 2 } := by
  obtain ⟨link, hlink, hiff, -⟩ := pageLink_gives_parameters_iff "/p" (some writtenOut) "a&b=c+d%41 ü€" "next" _
    ofQuery?_writtenOut
  exact ⟨ofQuery?_writtenOut, link, hlink, hiff.2 writesAnchorOut_writtenOut⟩

/-- A query string with a page anchor that has no equals sign. -/
def withoutSign : List Char := "pageSize=1&pageAnchor".toList

lemma ofQuery?_withoutSign :
    Parameters.ofQuery? withoutSign = some { pageSize := some 1, pageAnchor := some "" } := by decide +kernel

/-- The link keeps this anchor besides the other one, and then it is not read. -/
theorem exists_pageLink_not_followable :
    Parameters.ofQuery? withoutSign = some { pageSize := some 1, pageAnchor := some "" } ∧
      pageLink "/p" (some withoutSign) "urn:b" "next" =
        "</p?pageSize=1&pageAnchor&pageAnchor=urn%3Ab>; rel=\"next\"" ∧
      Parameters.ofQuery? "pageSize=1&pageAnchor&pageAnchor=urn%3Ab".toList = none := by
  refine ⟨ofQuery?_withoutSign, ?_, ?_⟩
  all_goals decide +kernel

end EntityHistory
