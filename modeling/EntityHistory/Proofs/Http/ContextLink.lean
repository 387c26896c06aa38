/-
Links to contexts.

A link header is a row of links, and a link is an address between angle brackets with parameters behind it. The
address of the first link whose parameters mention the relation for contexts is looked for in what lies between
two commas of a header, although an address may hold commas. So this address is found just when it has no comma
in it; if it has one, then no address is found, and no later link takes its place.

* `LinkValue.linkAddress_of_contextPiece?`: a comma parts the relation from the beginning of the address;
* `linkedContext_headerText`: the address that is found;
* `linkedContext_eq_contextAddress_iff`: when it is the one that the headers name.
-/
import Mathlib.Data.Option.Basic
import EntityHistory.Http.Link
import EntityHistory.Proofs.Text.Blank
import EntityHistory.Proofs.Text.Pieces

namespace EntityHistory

open Text

/-! ### Specification -/

/-- A link of a link header. -/
structure LinkValue where
  /-- The blanks before the address. -/
  blanks : List Char
  address : List Char
  /-- What stands behind the address. -/
  parameters : List Char
  blank_of_mem : ∀ c ∈ blanks, c = ' ' ∨ c = '\t'
  bare_address : '<' ∉ address ∧ '>' ∉ address
  address_mentions : mentions contextRelation.toList address = false
  bare_parameters : '<' ∉ parameters ∧ '>' ∉ parameters ∧ ',' ∉ parameters

namespace LinkValue

/-- The text of a link. -/
def text (link : LinkValue) : List Char := link.blanks ++ '<' :: (link.address ++ '>' :: link.parameters)

/-- Whether the relation for contexts occurs in the parameters of a link. -/
def namesContext (link : LinkValue) : Bool := mentions contextRelation.toList link.parameters

/-- The address of a link without the blanks around it, if anything is left. -/
def target? (link : LinkValue) : Option String :=
  if trim link.address = [] then none else some (String.ofList (trim link.address))

end LinkValue

/-- The text of a header with some links. -/
def headerText (links : List LinkValue) : String := String.ofList (joinWith [','] (links.map LinkValue.text))

/-- The headers of visible characters, spaces and tabs; others are not read. -/
def readable (headers : List (List LinkValue)) : List (List LinkValue) :=
  headers.filter fun links => isVisible (headerText links)

/-- The first link of all headers that names a context. -/
def contextLink? (headers : List (List LinkValue)) : Option LinkValue :=
  headers.flatten.find? LinkValue.namesContext

/-- The address of the context that headers name. -/
def contextAddress? (headers : List (List LinkValue)) : Option String :=
  (contextLink? headers).bind LinkValue.target?

/-! ### The pieces of a link -/

namespace LinkValue

variable {link : LinkValue} {piece : List Char}

/-- The first piece of a link that mentions the relation for contexts. -/
def contextPiece? (link : LinkValue) : Option (List Char) :=
  (pieces ',' link.text).find? (mentions contextRelation.toList)

lemma mentions_of_blank {cs : List Char} (h : ∀ c ∈ cs, c = ' ' ∨ c = '\t') :
    mentions contextRelation.toList cs = false := by
  have hletter : 'h' ∉ cs := fun hmem => absurd (h 'h' hmem) (by decide)
  exact mentions_eq_false_of_not_mem (by decide) hletter

/-- Before its parameters a link does not mention the relation. -/
lemma mentions_opening (link : LinkValue) {cs : List Char} (h : cs <:+: link.address) :
    mentions contextRelation.toList (link.blanks ++ '<' :: cs) = false := by
  refine mentions_append_separator (by decide) (mentions_of_blank link.blank_of_mem) ?_
  rw [mentions_eq_false_iff]
  exact fun hpart => mentions_eq_false_iff.1 link.address_mentions (hpart.trans h)

lemma mentions_text : mentions contextRelation.toList link.text = link.namesContext := by
  have hopening := link.mentions_opening List.infix_rfl
  have hbracket : '>' ∉ contextRelation.toList := by decide
  rw [Bool.eq_iff_iff, text, ← List.cons_append, ← List.append_assoc, mentions_append_cons_iff hbracket, hopening]
  simp [namesContext]

lemma comma_not_mem_contextRelation : ',' ∉ contextRelation.toList := by decide

/-- A link has a piece with the relation just when its parameters mention it. -/
lemma isSome_contextPiece? (link : LinkValue) : link.contextPiece?.isSome = link.namesContext := by
  rw [Bool.eq_iff_iff, contextPiece?, List.find?_isSome, ← mentions_text,
    mentions_iff_exists_mem_pieces comma_not_mem_contextRelation]

lemma exists_contextPiece? (h : link.namesContext = true) : ∃ piece, link.contextPiece? = some piece := by
  rw [← Option.isSome_iff_exists, isSome_contextPiece?, h]

lemma contextPiece?_eq_none (h : link.namesContext = false) : link.contextPiece? = none := by
  rw [← Option.isNone_iff_eq_none, ← Option.isSome_eq_false_iff, isSome_contextPiece?, h]

/-- In the text of a link stands its address. -/
lemma linkAddress_text (link : LinkValue) : linkAddress link.text = some (trim link.address) := by
  have hblanks : '<' ∉ link.blanks := fun h => absurd (link.blank_of_mem '<' h) (by decide)
  rw [linkAddress, text, cutOnce_append_cons hblanks]
  show (cutOnce '>' (link.address ++ '>' :: link.parameters) >>= _) = _
  rw [cutOnce_append_cons link.bare_address.2]
  rfl

/-- A link without a comma in its address is one piece. -/
lemma eq_text_of_contextPiece? (h : ',' ∉ link.address) (hpiece : link.contextPiece? = some piece) :
    piece = link.text := by
  have hblanks : ',' ∉ link.blanks := fun h => absurd (link.blank_of_mem ',' h) (by decide)
  have htext : ',' ∉ link.text := by simp [text, hblanks, h, link.bare_parameters.2.2]
  have hmem := List.mem_of_find?_eq_some hpiece
  rwa [pieces_of_not_mem htext, List.mem_singleton] at hmem

/-- If the address of a link holds a comma, then the piece with the relation does not reach back to the bracket
before the address. -/
lemma linkAddress_of_contextPiece? (h : ',' ∈ link.address) (hpiece : link.contextPiece? = some piece) :
    linkAddress piece = none := by
  obtain ⟨first, rest, haddress⟩ := List.append_of_mem h
  have htext : link.text = (link.blanks ++ '<' :: first) ++ ',' :: (rest ++ '>' :: link.parameters) := by
    simp [text, haddress]
  have hopening : mentions contextRelation.toList (link.blanks ++ '<' :: first) = false := by
    refine link.mentions_opening ?_
    rw [haddress]
    exact (List.prefix_append _ _).isInfix
  have hfirst : (pieces ',' (link.blanks ++ '<' :: first)).find? (mentions contextRelation.toList) = none := by
    rw [List.find?_eq_none]
    intro part hpart hmentions
    rw [(mentions_iff_exists_mem_pieces comma_not_mem_contextRelation).2 ⟨part, hpart, hmentions⟩] at hopening
    cases hopening
  rw [contextPiece?, htext, pieces_append_cons, List.find?_append, hfirst, Option.none_or] at hpiece
  -- the piece lies behind the first comma of the address, where no bracket opens
  have hbracket : '<' ∉ rest ++ '>' :: link.parameters := by
    have hrest : '<' ∉ rest := fun hmem => link.bare_address.1 (by simp [haddress, hmem])
    simp [hrest, link.bare_parameters.1]
  have hnot : '<' ∉ piece := fun hmem =>
    hbracket ((infix_of_mem_pieces (List.mem_of_find?_eq_some hpiece)).subset hmem)
  rw [linkAddress, cutOnce_eq_none hnot]
  rfl

end LinkValue

/-! ### The links of all headers -/

/-- The piece that is found is in the first link that names a context. -/
lemma find?_flatMap_pieces (links : List LinkValue) :
    (links.flatMap fun link => pieces ',' link.text).find? (mentions contextRelation.toList) =
      (links.find? LinkValue.namesContext).bind LinkValue.contextPiece? := by
  induction links with
  | nil => rfl
  | cons link links ih =>
    rw [List.flatMap_cons, List.find?_append, ih, List.find?_cons, ← LinkValue.contextPiece?]
    cases hnames : link.namesContext with
    | true =>
      obtain ⟨piece, hpiece⟩ := LinkValue.exists_contextPiece? hnames
      rw [hpiece, Option.some_or, Option.bind_some, hpiece]
    | false => rw [LinkValue.contextPiece?_eq_none hnames, Option.none_or]

lemma find?_pieces_headerText (links : List LinkValue) :
    (pieces ',' (headerText links).toList).find? (mentions contextRelation.toList) =
      (links.flatMap fun link => pieces ',' link.text).find? (mentions contextRelation.toList) := by
  cases links with
  | nil => rfl
  | cons link links =>
    rw [headerText, String.toList_ofList, pieces_joinWith_eq_flatMap (by simp), List.flatMap_map]

lemma find?_flatMap_headers (headers : List (List LinkValue)) :
    (headers.flatMap fun links => pieces ',' (headerText links).toList).find? (mentions contextRelation.toList) =
      (headers.flatten.flatMap fun link => pieces ',' link.text).find? (mentions contextRelation.toList) := by
  induction headers with
  | nil => rfl
  | cons links headers ih =>
    rw [List.flatMap_cons, List.flatten_cons, List.flatMap_append, List.find?_append, List.find?_append,
      find?_pieces_headerText, ih]

/-- What is found is the address of the first link that names a context, unless it holds a comma. -/
theorem linkedContext_headerText (headers : List (List LinkValue)) :
    linkedContext (headers.map headerText) =
      (contextLink? (readable headers)).bind fun link => if ',' ∈ link.address then none else link.target? := by
  have hread : (headers.map headerText).filter isVisible = (readable headers).map headerText := List.filter_map
  rw [linkedContext, hread, List.flatMap_map]
  show (List.find? _ ((readable headers).flatMap fun links => pieces ',' (headerText links).toList) >>= _) = _
  rw [find?_flatMap_headers, find?_flatMap_pieces, contextLink?, Option.bind_eq_bind, Option.bind_assoc]
  refine Option.bind_congr fun link hlink => ?_
  obtain ⟨piece, hpiece⟩ := LinkValue.exists_contextPiece? (List.find?_some hlink)
  rw [hpiece, Option.bind_some]
  by_cases hcomma : ',' ∈ link.address
  · rw [if_pos hcomma, LinkValue.linkAddress_of_contextPiece? hcomma hpiece]
    rfl
  · rw [if_neg hcomma, LinkValue.eq_text_of_contextPiece? hcomma hpiece, LinkValue.linkAddress_text]
    rfl

/-- A comma is no blank, so it stays when the blanks around an address are taken off. -/
lemma LinkValue.target?_ne_none {link : LinkValue} (h : ',' ∈ link.address) : link.target? ≠ none := by
  have hne : trim link.address ≠ [] := fun hnil => absurd (trim_eq_nil_iff.1 hnil ',' h) (by decide)
  rw [target?, if_neg hne]
  exact Option.some_ne_none _

/-- **When the context that link headers name is found.**  The address of the first link with the relation for
contexts is found, without the blanks around it, just when it holds no comma; if it holds one, nothing is found.
Headers with other characters than visible ones, spaces and tabs are passed over. -/
theorem linkedContext_eq_contextAddress_iff (headers : List (List LinkValue)) :
    (linkedContext (headers.map headerText) = contextAddress? (readable headers) ↔
        ∀ link, contextLink? (readable headers) = some link → ',' ∉ link.address) ∧
      ∀ link, contextLink? (readable headers) = some link → ',' ∈ link.address →
        linkedContext (headers.map headerText) = none := by
  rw [linkedContext_headerText, contextAddress?]
  cases hlink : contextLink? (readable headers) with
  | none => simp
  | some link =>
    by_cases hcomma : ',' ∈ link.address
    · simp [hcomma, (LinkValue.target?_ne_none hcomma).symm]
    · simp [hcomma]

lemma hash_mem_contextRelation : '#' ∈ contextRelation.toList := by decide

/-- The parameters of a link to a context. -/
def contextParameters : List Char := ("; rel=\"" ++ contextRelation ++ "\"").toList

/-- A link to another page. -/
def nextLink : LinkValue where
  blanks := []
  address := "https://e.org/p?ids=a,b".toList
  parameters := "; rel=\"next\"".toList
  blank_of_mem := by simp
  bare_address := by decide
  address_mentions := mentions_eq_false_of_not_mem hash_mem_contextRelation (by decide)
  bare_parameters := by decide

/-- A link to a context. -/
def plainContext : LinkValue where
  blanks := [' ']
  address := " https://e.org/c ".toList
  parameters := contextParameters
  blank_of_mem := by simp
  bare_address := by decide
  address_mentions := mentions_eq_false_of_not_mem hash_mem_contextRelation (by decide)
  bare_parameters := by decide

/-- A link to a context at an address with a comma. -/
def commaContext : LinkValue where
  blanks := []
  address := "https://e.org/c,d".toList
  parameters := contextParameters
  blank_of_mem := by simp
  bare_address := by decide
  address_mentions := mentions_eq_false_of_not_mem hash_mem_contextRelation (by decide)
  bare_parameters := by decide

lemma contextLink?_plainContext :
    contextLink? (readable [[nextLink, plainContext], [commaContext]]) = some plainContext := by rfl

/-- Commas in the addresses of other links do no harm. -/
theorem linkedContext_plainContext :
    linkedContext (List.map headerText [[nextLink, plainContext], [commaContext]]) = some "https://e.org/c" := by
  have hcomma : ∀ link, contextLink? (readable [[nextLink, plainContext], [commaContext]]) = some link →
      ',' ∉ link.address := by
    intro link hlink
    rw [contextLink?_plainContext] at hlink
    obtain rfl := Option.some.inj hlink
    decide
  rw [(linkedContext_eq_contextAddress_iff _).1.2 hcomma, contextAddress?, contextLink?_plainContext]
  rfl

/-- An address with a comma is not found. -/
theorem exists_linkedContext_ne_contextAddress :
    contextAddress? (readable [[commaContext]]) = some "https://e.org/c,d" ∧
      linkedContext [headerText [commaContext]] = none := by
  constructor
  · rfl
  · cbv

end EntityHistory
