import SolidityAudit.Proofs.ArithmeticGate
import SolidityAudit.Proofs.ParameterSlot

/-!
# Comments in Parameter Lists

The parameters of a function are those of its list as it is written. The list ends at the
parenthesis that closes it, and for that parenthesis comments and strings are passed over.
The list itself is read as plain text, comments and all.

So a comment that is put into a list is not always without effect. It moves the rest of the
file, which nobody sees (`exists_slot`), and it changes the text of the list: with a comma it
makes one entry into two, and in front of the first word of an entry, or behind the last, it
brings a word of its own to the place that counts. Between the two it is not seen
(`parse_middle`). A comment is not a token that opens or closes anything, so the list still
ends where it did (`openAfter?_comment`).

## Theorems

* `Contract.label?_congr`: Labels hang on the functions alone.
* `parameters_as_written`: What the parameters of a function are, and what becomes of them
  when a comment is put into the list.
-/

namespace SolidityAudit

/-- How functions are called hangs on the functions alone. -/
theorem Contract.label?_congr {c c' : Contract} (h : c.functions = c'.functions) :
    c.label? = c'.label? := by
  funext index
  unfold label? isOverloaded declared
  rw [h]

/-- The parameters of a function are what its list says as it is written, cut at every comma.
    They are the entries that a reader of the language sees if no comma is hidden and every
    comment stands in the middle of its entry. A comment that is put between two lexemes of
    the list changes nothing but the parameters of this function, to what the list says with
    it. If there is no comma in it and it stands behind the first word and in front of the
    last word of an entry, not even these, and no function is called otherwise. -/
theorem parameters_as_written {s : List Char} {i : Nat} {d : Declaration}
    (h : (declarations s)[i]? = some d) :
    ∃ (x : Slot) (list : List Lexeme), lexemes s = x.fill list ∧ x.Names d.name ∧
      openAfter? 0 list = some 0 ∧ Parameter.Listed (textOf list) d.parameters ∧
      (∀ es, es ≠ [] → list = [comma].intercalate es → (∀ e ∈ es, Parameter.ClearEntry e) →
        d.parameters = Parameter.topLevel list) ∧
      ∀ a c b, list = a ++ b → c.kind = .comment →
        lexemes (textOf (x.fill (a ++ c :: b))) = x.fill (a ++ c :: b) →
        declarations (textOf (x.fill (a ++ c :: b)))
            = (declarations s).set i
              (d.withParameters (Parameter.parse (textOf a ++ (c.text ++ textOf b)))) ∧
          (Parameter.EndsWord (textOf a) → Parameter.BeginsWord (textOf b) → ',' ∉ c.text →
            declarations (textOf (x.fill (a ++ c :: b))) = declarations s ∧
            ∀ k k', Contract.extract (String.ofList s) = .ok k →
              Contract.extract (String.ofList (textOf (x.fill (a ++ c :: b)))) = .ok k' →
              k'.label? = k.label?) := by
  rcases exists_slot h with ⟨x, list, hls, hnames, hcloses, hparameters, hfill⟩
  refine ⟨x, list, hls, hnames, hcloses, Parameter.listed_iff.mpr hparameters.symm, ?_, ?_⟩
  · rintro es hne rfl hclear
    rw [hparameters, Parameter.parse_eq_topLevel hne hclear]
  · rintro a c b rfl hc hlexemes
    have htext : textOf (a ++ c :: b) = textOf a ++ (c.text ++ textOf b) := by
      rw [textOf_append, textOf_cons]
    have hset := hfill (a ++ c :: b) ⟨hlexemes, by rw [openAfter?_comment hc, hcloses]⟩
    rw [htext] at hset
    refine ⟨hset, fun ha hb hcomma => ?_⟩
    -- The list says the same with the comment and without it, so the function is the same.
    have hsame : Parameter.parse (textOf a ++ (c.text ++ textOf b)) = d.parameters := by
      have hnone : ',' ∉ ([] : List Char) := by simp
      rw [hparameters, textOf_append]
      exact Parameter.parse_middle ha hb hcomma hnone
    have hd : d.withParameters d.parameters = d := rfl
    have hself : (declarations s).set i d = declarations s := by
      rw [← (List.getElem?_eq_some_iff.mp h).2, List.set_getElem_self]
    rw [hsame, hd, hself] at hset
    refine ⟨hset, fun k k' hk hk' => Contract.label?_congr ?_⟩
    rcases Contract.extract_ok hk with ⟨-, -, hfunctions, -⟩
    rcases Contract.extract_ok hk' with ⟨-, -, hfunctions', -⟩
    rw [hfunctions', String.toList_ofList, hset, hfunctions, String.toList_ofList]

/-- Where a text has one pair of parentheses there is no choice of the list. -/
theorem Slot.fill_inj {x y : Slot} {list list' : List Lexeme}
    (hfront : leftParen ∉ x.front) (hleft : leftParen ∉ list ++ rightParen :: x.rest)
    (hlist : rightParen ∉ list) (hrest : rightParen ∉ x.rest)
    (h : x.fill list = y.fill list') : x = y ∧ list = list' := by
  rcases (List.append_cons_inj_of_notMem hfront hleft).mp h with ⟨hfronts, -, hbehind⟩
  rcases (List.append_cons_inj_of_notMem hlist hrest).mp hbehind with ⟨hlists, -, hrests⟩
  rcases x with ⟨front, rest⟩
  rcases y with ⟨front', rest'⟩
  exact ⟨congrArg₂ Slot.mk hfronts hrests, hlists⟩

/-! ## A list with comments -/

/-- The header `function f( … )` and an empty body. -/
def plainSlot : Slot where
  front := [⟨.ident, "function".toList⟩, ⟨.blank, [' ']⟩, ⟨.ident, ['f']⟩]
  rest := [⟨.punct, ['\x7b']⟩, ⟨.punct, ['\x7d']⟩]

/-- The words `bytes memory`. -/
def rawType : List Lexeme :=
  [⟨.ident, "bytes".toList⟩, ⟨.blank, [' ']⟩, ⟨.ident, "memory".toList⟩]

/-- What follows them up to the next comma. -/
def rawName : List Lexeme :=
  [⟨.blank, [' ']⟩, ⟨.comment, "/* raw */".toList⟩, ⟨.blank, [' ']⟩, ⟨.ident, ['a']⟩]

/-- The second entry, `uint b`. -/
def countEntry : List Lexeme :=
  [⟨.blank, [' ']⟩, ⟨.ident, "uint".toList⟩, ⟨.blank, [' ']⟩, ⟨.ident, ['b']⟩]

/-- The list `bytes memory /* raw */ a, uint b`. -/
def rawList : List Lexeme := [comma].intercalate [rawType ++ rawName, countEntry]

/-- The comment that is put into it. -/
def seen : Lexeme := ⟨.comment, "/* seen */".toList⟩

def rawFunction : Declaration := ⟨"f", [⟨"bytes", "a"⟩, ⟨"uint", "b"⟩], none, ""⟩

theorem endsWord_rawType : Parameter.EndsWord (textOf rawType) :=
  ⟨"byte".toList, 's', ' ', "memory".toList, by decide +kernel, by decide, by decide, by decide,
    by decide +kernel⟩

theorem clearEntry_raw : Parameter.ClearEntry (rawType ++ rawName) where
  noComma := by decide +kernel
  closes := by decide +kernel
  settled := .inr ⟨rawType, rawName.take 2, rawName.drop 2, by decide +kernel, by decide +kernel,
    endsWord_rawType,
    ⟨[], ' ', 'a', [], by decide +kernel, by decide, by decide, by decide, by simp⟩⟩

theorem clearEntry_count : Parameter.ClearEntry countEntry where
  noComma := by decide +kernel
  closes := by decide +kernel
  settled := .inl (by decide +kernel)

/-- The two parameters are those that are seen, and a second comment behind `memory` leaves
    them and everything else as they are. -/
theorem parameters_as_written_raw :
    (declarations (textOf (plainSlot.fill rawList)))[0]? = some rawFunction ∧
      rawFunction.parameters = Parameter.topLevel rawList ∧
      declarations (textOf (plainSlot.fill
          (rawType ++ seen :: (rawName ++ comma :: countEntry)))) = [rawFunction] := by
  have hraw : declarations (textOf (plainSlot.fill rawList)) = [rawFunction] := by decide +kernel
  have hfirst : (declarations (textOf (plainSlot.fill rawList)))[0]? = some rawFunction := by
    rw [hraw, List.getElem?_cons_zero]
  have hlexemes : lexemes (textOf (plainSlot.fill rawList)) = plainSlot.fill rawList := by
    decide +kernel
  rcases parameters_as_written hfirst with ⟨x, list, hls, -, -, -, hclear, hcomment⟩
  rcases Slot.fill_inj (by decide +kernel) (by decide +kernel) (by decide +kernel)
    (by decide +kernel) (hlexemes.symm.trans hls) with ⟨rfl, rfl⟩
  refine ⟨hfirst, hclear [rawType ++ rawName, countEntry] (by simp) rfl ?_, ?_⟩
  · intro e he
    rcases List.mem_pair.mp he with rfl | rfl
    · exact clearEntry_raw
    · exact clearEntry_count
  · -- The name is still to come behind the second comment.
    have hbegins : Parameter.BeginsWord (textOf (rawName ++ comma :: countEntry)) :=
      ⟨" /* raw */".toList, ' ', 'a', ", uint b".toList, by decide +kernel, by decide, by decide,
        by decide, by decide +kernel⟩
    have hsame := (hcomment rawType seen (rawName ++ comma :: countEntry) (by decide +kernel) rfl
      (by decide +kernel)).2 endsWord_rawType hbegins (by decide +kernel)
    rw [hsame.1, hraw]

/-- The list `/* t */ uint a /* x, y */, function(uint,uint) g`. -/
def crowdedList : List Lexeme :=
  [⟨.comment, "/* t */".toList⟩, ⟨.blank, [' ']⟩, ⟨.ident, "uint".toList⟩, ⟨.blank, [' ']⟩,
    ⟨.ident, ['a']⟩, ⟨.blank, [' ']⟩, ⟨.comment, "/* x, y */".toList⟩, comma, ⟨.blank, [' ']⟩,
    ⟨.ident, "function".toList⟩, leftParen, ⟨.ident, "uint".toList⟩, comma,
    ⟨.ident, "uint".toList⟩, rightParen, ⟨.blank, [' ']⟩, ⟨.ident, ['g']⟩]

/-- Two parameters are seen and four are read: a comment in front of a type is taken for it,
    and the commas of a comment and of a type cut what they stand in. -/
theorem crowdedList_parameters :
    (declarations (textOf (plainSlot.fill crowdedList))).map Declaration.parameters
        = [[⟨"/*", "x"⟩, ⟨"y", "*/"⟩, ⟨"function(uint", "function(uint"⟩, ⟨"uint)", "g"⟩]] ∧
      Parameter.topLevel crowdedList = [⟨"uint", "a"⟩, ⟨"function(uint,uint)", "g"⟩] := by
  decide +kernel

end SolidityAudit
