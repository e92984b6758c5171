import AccessGrants.Proofs.Sql.Meaning
import AccessGrants.Proofs.Text.Numeral
import Mathlib.Data.List.TakeWhile

/-!
How the text of a condition is read. Blanks and parentheses part its words, and
what stands between parentheses is read on its own. Of the operators OR binds
least, then AND, then NOT, and a comparison binds most; OR and AND group to the
left. A condition that has parentheses wherever these rules ask for them is read
off its text as it was written, and its placeholders stand in the text in the
order in which they stand in the condition.
-/

namespace AccessGrants.Sql

section Words

/-- All characters but blanks and parentheses stand in words. -/
def inWord (c : Char) : Bool :=
  c != ' ' && c != '(' && c != ')'

/-- The words and the parentheses of a text, in order. -/
def words : List Char → List (List Char)
  | [] => []
  | c :: rest =>
    if c = ' ' then words rest
    else if inWord c && rest.head?.any inWord then
      match words rest with
      | [] => [[c]]
      | word :: later => (c :: word) :: later
    else [c] :: words rest

variable {word rest : List Char}

/-- A word ends where no character of a word follows. -/
theorem words_append (given : word ≠ []) (inside : ∀ c ∈ word, inWord c = true)
    (ends : rest.head?.any inWord = false) : words (word ++ rest) = word :: words rest := by
  induction word with
  | nil => exact absurd rfl given
  | cons c more ih =>
      have hc : inWord c = true := inside c List.mem_cons_self
      have hblank : c ≠ ' ' := by
        rintro rfl
        exact absurd hc (by decide)
      cases more with
      | nil => simp [words, hblank, ends]
      | cons d more =>
          have hd : inWord d = true := inside d (List.mem_cons_of_mem _ List.mem_cons_self)
          have hmore := ih (List.cons_ne_nil _ _) fun c h => inside c (List.mem_cons_of_mem _ h)
          rw [List.cons_append, words, if_neg hblank, hmore, if_pos]
          simp [hc, hd]

end Words

/-- A part of a condition: a word, or an expression in parentheses that has been read. -/
inductive Item where
  | word (w : String)
  | group (e : Expr)
  deriving DecidableEq

/-- Names are of lower-case letters and underscores. -/
def inName (c : Char) : Bool :=
  c.isLower || c == '_'

def isName (cs : List Char) : Bool :=
  !cs.isEmpty && cs.all inName

/-- A placeholder, or a column with or without the label of its source. -/
def readWord : List Char → Option Expr
  | '$' :: digits => (Text.readNat? digits).map .placeholder
  | cs =>
    match cs.splitOn '.' with
    | [name] => if isName name then some (.bare (.ofList name)) else none
    | [source, name] =>
      if isName source && isName name then some (.column (.ofList source) (.ofList name))
      else none
    | _ => none

def Item.operand? : Item → Option Expr
  | .word w => readWord w.toList
  | .group e => some (.group e)

def readComparison : List Item → Option Expr
  | [e] => e.operand?
  | [left, .word "=", right] => do
    return .equal (← left.operand?) (← right.operand?)
  | [e, .word "IS", .word "NULL"] => e.operand?.map .isNull
  | [e, .word "IS", .word "NOT", .word "NULL"] => e.operand?.map .isNotNull
  | _ => none

def readNegation : List Item → Option Expr
  | .word "NOT" :: rest => (readNegation rest).map .negation
  | items => readComparison items

/-- Operands between the occurrences of an operator, grouped to the left. -/
def readChain (operator : String) (join : Expr → Expr → Expr)
    (operand : List Item → Option Expr) (items : List Item) : Option Expr :=
  match (items.splitOn (.word operator)).mapM operand with
  | some (first :: rest) => some (rest.foldl join first)
  | _ => none

def readConjunction : List Item → Option Expr :=
  readChain "AND" .both readNegation

def readDisjunction : List Item → Option Expr :=
  readChain "OR" .either readConjunction

/-- Reads on after what has been read of each of the parentheses that are open. -/
def gather : List (List Char) → List (List Item) → Option (List Item)
  | [], [items] => some items
  | [], _ => none
  | ['('] :: rest, stack => gather rest ([] :: stack)
  | [')'] :: rest, inner :: items :: stack =>
    (readDisjunction inner).bind fun e => gather rest ((items ++ [.group e]) :: stack)
  | [')'] :: _, _ => none
  | word :: rest, items :: stack => gather rest ((items ++ [.word (.ofList word)]) :: stack)
  | _ :: _, [] => none

section Names

variable {source name cs : List Char} {c : Char}

theorem inName_of_mem (h : isName cs = true) (hc : c ∈ cs) : inName c = true :=
  List.all_eq_true.mp (Bool.and_eq_true_iff.mp h).2 c hc

theorem not_mem_name (h : isName cs = true) (hc : inName c = false) : c ∉ cs := by
  intro hmem
  rw [inName_of_mem h hmem] at hc
  cases hc

theorem inWord_of_mem_name (h : isName cs = true) (hc : c ∈ cs) : inWord c = true := by
  have hne (mark : Char) (hmark : inName mark = false) : c ≠ mark := by
    rintro rfl
    exact not_mem_name h hmark hc
  simp [inWord, hne ' ' rfl, hne '(' rfl, hne ')' rfl]

theorem readWord_of_name_append (h : isName source = true) :
    readWord (source ++ cs) =
      match (source ++ cs).splitOn '.' with
      | [name] => if isName name then some (.bare (.ofList name)) else none
      | [source, name] =>
        if isName source && isName name then some (.column (.ofList source) (.ofList name))
        else none
      | _ => none := by
  cases source with
  | nil => cases h
  | cons d rest =>
      rw [List.cons_append, readWord]
      rintro digits ⟨rfl, _⟩
      exact not_mem_name h rfl List.mem_cons_self

theorem readWord_name (h : isName name = true) : readWord name = some (.bare (.ofList name)) := by
  have hdot : '.' ∉ name := not_mem_name h rfl
  rw [← List.append_nil name, readWord_of_name_append h, List.append_nil,
    List.splitOn_eq_singleton hdot]
  simp [h]

theorem readWord_column (hsource : isName source = true) (hname : isName name = true) :
    readWord (source ++ '.' :: name) = some (.column (.ofList source) (.ofList name)) := by
  have hdot : '.' ∉ source := not_mem_name hsource rfl
  have hdot' : '.' ∉ name := not_mem_name hname rfl
  rw [readWord_of_name_append hsource, List.splitOn_append_cons_self,
    List.splitOn_eq_singleton hdot, List.splitOn_eq_singleton hdot']
  simp [hsource, hname]

theorem readWord_placeholder (index : Nat) :
    readWord ('$' :: Text.decimalChars index) = some (.placeholder index) := by
  have hdigits : Text.decimalChars index = Nat.toDigits 10 index := rfl
  rw [readWord, hdigits, (Text.isDigits_toDigits index).readNat?, Text.placeValue_toDigits]
  rfl

end Names

section Chains

variable {operator : String} {join : Expr → Expr → Expr} {operand : List Item → Option Expr}
  {left right : List Item}

theorem readChain_of_not_mem (h : .word operator ∉ left) :
    readChain operator join operand left = operand left := by
  rw [readChain, List.splitOn_eq_singleton h]
  cases hread : operand left with
  | none => simp [hread]
  | some e => simp [hread]

/-- A chain goes on by the operand behind the last operator. -/
theorem readChain_append {first second : Expr}
    (hleft : readChain operator join operand left = some first)
    (hright : operand right = some second) (last : .word operator ∉ right) :
    readChain operator join operand (left ++ .word operator :: right) =
      some (join first second) := by
  rw [readChain] at hleft ⊢
  split at hleft
  · next head rest hread =>
      rw [List.splitOn_append_cons_self, List.splitOn_eq_singleton last, List.mapM_append, hread]
      cases hleft
      simp [hright]
  · cases hleft

end Chains

namespace Expr

/-- The condition that a text is read as. -/
def ofText? (text : String) : Option Expr :=
  (gather (words text.toList) [[]]).bind readDisjunction

/-- What the text of an expression is made of, outside of further parentheses. -/
def items : Expr → List Item
  | .column source name => [.word (source ++ "." ++ name)]
  | .bare name => [.word name]
  | .placeholder index => [.word ("$" ++ Text.decimal index)]
  | .equal left right => left.items ++ .word "=" :: right.items
  | .isNull e => e.items ++ [.word "IS", .word "NULL"]
  | .isNotNull e => e.items ++ [.word "IS", .word "NOT", .word "NULL"]
  | .both left right => left.items ++ .word "AND" :: right.items
  | .either left right => left.items ++ .word "OR" :: right.items
  | .negation e => .word "NOT" :: e.items
  | .group e => [.group e]
  | _ => []

/-- How tightly the outermost operator of an expression binds. -/
inductive Level where
  | operand
  | comparison
  | negation
  | conjunction
  | disjunction
  deriving DecidableEq

/-- The expression has parentheses wherever something binds less tightly than
its place asks for. -/
inductive Legible : Level → Expr → Prop where
  | column {source name : String} (hsource : isName source.toList = true)
      (hname : isName name.toList = true) : Legible .operand (.column source name)
  | bare {name : String} (hname : isName name.toList = true) : Legible .operand (.bare name)
  | placeholder (index : Nat) : Legible .operand (.placeholder index)
  | group {e : Expr} (inner : Legible .disjunction e) : Legible .operand (.group e)
  | equal {left right : Expr} (first : Legible .operand left) (second : Legible .operand right) :
      Legible .comparison (.equal left right)
  | isNull {e : Expr} (inner : Legible .operand e) : Legible .comparison (.isNull e)
  | isNotNull {e : Expr} (inner : Legible .operand e) : Legible .comparison (.isNotNull e)
  | negation {e : Expr} (inner : Legible .negation e) : Legible .negation (.negation e)
  | both {left right : Expr} (first : Legible .conjunction left)
      (second : Legible .negation right) : Legible .conjunction (.both left right)
  | either {left right : Expr} (first : Legible .disjunction left)
      (second : Legible .conjunction right) : Legible .disjunction (.either left right)
  | ofOperand {e : Expr} (h : Legible .operand e) : Legible .comparison e
  | ofComparison {e : Expr} (h : Legible .comparison e) : Legible .negation e
  | ofNegation {e : Expr} (h : Legible .negation e) : Legible .conjunction e
  | ofConjunction {e : Expr} (h : Legible .conjunction e) : Legible .disjunction e

section Items

variable {e : Expr} {level : Level}

/-- What binds more tightly may stand where less is asked for. -/
theorem Legible.of_comparison (h : Legible .comparison e) (other : level ≠ .operand) :
    Legible level e := by
  cases level with
  | operand => exact absurd rfl other
  | comparison => exact h
  | negation => exact .ofComparison h
  | conjunction => exact .ofNegation (.ofComparison h)
  | disjunction => exact .ofConjunction (.ofNegation (.ofComparison h))

theorem Legible.of_operand (h : Legible .operand e) : Legible level e := by
  by_cases hlevel : level = .operand
  · rw [hlevel]
    exact h
  · exact (Legible.ofOperand h).of_comparison hlevel

/-- An operand is one item. -/
theorem Legible.items_operand (h : Legible .operand e) :
    ∃ item : Item, e.items = [item] ∧ item.operand? = some e := by
  cases h with
  | column hsource hname =>
      refine ⟨_, rfl, ?_⟩
      simpa [Item.operand?] using readWord_column hsource hname
  | bare hname =>
      refine ⟨_, rfl, ?_⟩
      simpa [Item.operand?] using readWord_name hname
  | placeholder index =>
      refine ⟨_, rfl, ?_⟩
      simpa [Item.operand?] using readWord_placeholder index
  | group => exact ⟨_, rfl, rfl⟩

/-- How the items of an expression are read, by how tightly it binds. -/
def Level.read : Level → List Item → Option Expr
  | .operand | .comparison => readComparison
  | .negation => readNegation
  | .conjunction => readConjunction
  | .disjunction => readDisjunction

/-- The operators that do not occur outside of parentheses. -/
def Level.enclosed : Level → List String
  | .operand | .comparison | .negation => ["AND", "OR"]
  | .conjunction => ["OR"]
  | .disjunction => []

theorem Legible.ne_of_mem_operand (h : Legible .operand e) {keyword : String}
    (reserved : readWord keyword.toList = none) : .word keyword ∉ e.items := by
  obtain ⟨item, hitems, hread⟩ := h.items_operand
  rw [hitems, List.mem_singleton]
  rintro rfl
  rw [Item.operand?, reserved] at hread
  cases hread

theorem Legible.operator_not_mem (h : Legible level e) {operator : String}
    (enclosed : operator ∈ level.enclosed) : .word operator ∉ e.items := by
  have hoperand {e : Expr} (h : Legible .operand e) {operator : String}
      (enclosed : operator ∈ ["AND", "OR"]) : .word operator ∉ e.items := by
    simp only [List.mem_cons, List.not_mem_nil, or_false] at enclosed
    rcases enclosed with rfl | rfl
    · exact h.ne_of_mem_operand rfl
    · exact h.ne_of_mem_operand rfl
  induction h with
  | column hsource hname => exact hoperand (.column hsource hname) enclosed
  | bare hname => exact hoperand (.bare hname) enclosed
  | placeholder index => exact hoperand (.placeholder index) enclosed
  | group inner => exact hoperand (.group inner) enclosed
  | equal _ _ ihleft ihright =>
      have hne : operator ≠ "=" := ne_of_mem_of_not_mem enclosed (by decide)
      simp [items, hne, ihleft enclosed, ihright enclosed]
  | isNull _ ih =>
      have hwords : ∀ each ∈ Level.comparison.enclosed, each ∉ ["IS", "NULL"] := by decide
      simpa [items, ih enclosed] using hwords operator enclosed
  | isNotNull _ ih =>
      have hwords : ∀ each ∈ Level.comparison.enclosed, each ∉ ["IS", "NOT", "NULL"] := by
        decide
      simpa [items, ih enclosed] using hwords operator enclosed
  | negation _ ih =>
      have hne : operator ≠ "NOT" := ne_of_mem_of_not_mem enclosed (by decide)
      simp [items, hne, ih enclosed]
  | both _ _ ihleft ihright =>
      have hne : operator ≠ "AND" := ne_of_mem_of_not_mem enclosed (by decide)
      simp [items, hne, ihleft enclosed, ihright (List.mem_cons_of_mem _ enclosed)]
  | either => cases enclosed
  | ofOperand _ ih => exact ih enclosed
  | ofComparison _ ih => exact ih enclosed
  | ofNegation _ ih => exact ih (List.mem_cons_of_mem _ enclosed)
  | ofConjunction => cases enclosed

/-- No comparison begins with NOT. -/
theorem Legible.readNegation_eq (h : Legible .comparison e) :
    readNegation e.items = readComparison e.items := by
  have hfirst {e : Expr} (h : Legible .operand e) (rest : List Item) :
      readNegation (e.items ++ rest) = readComparison (e.items ++ rest) := by
    obtain ⟨item, hitems, hread⟩ := h.items_operand
    rw [hitems, List.singleton_append, readNegation]
    intro _ hcons
    obtain ⟨rfl, _⟩ := List.cons.inj hcons
    cases hread
  cases h with
  | equal first => exact hfirst first _
  | isNull inner => exact hfirst inner _
  | isNotNull inner => exact hfirst inner _
  | ofOperand h => simpa using hfirst h []

theorem Legible.read_items (h : Legible level e) : level.read e.items = some e := by
  have hoperand {e : Expr} (h : Legible .operand e) : readComparison e.items = some e := by
    obtain ⟨item, hitems, hread⟩ := h.items_operand
    rw [hitems, readComparison, hread]
  induction h with
  | column hsource hname => exact hoperand (.column hsource hname)
  | bare hname => exact hoperand (.bare hname)
  | placeholder index => exact hoperand (.placeholder index)
  | group inner => exact hoperand (.group inner)
  | equal first second =>
      obtain ⟨left, hleft, hreadLeft⟩ := first.items_operand
      obtain ⟨right, hright, hreadRight⟩ := second.items_operand
      rw [items, hleft, hright]
      simp [Level.read, readComparison, hreadLeft, hreadRight]
  | isNull inner =>
      obtain ⟨item, hitems, hread⟩ := inner.items_operand
      rw [items, hitems]
      simp [Level.read, readComparison, hread]
  | isNotNull inner =>
      obtain ⟨item, hitems, hread⟩ := inner.items_operand
      rw [items, hitems]
      simp [Level.read, readComparison, hread]
  | negation _ ih =>
      have hrest : readNegation _ = some _ := ih
      rw [items, Level.read, readNegation, hrest]
      rfl
  | both first second ihleft ihright =>
      exact readChain_append ihleft ihright (second.operator_not_mem (by decide))
  | either first second ihleft ihright =>
      exact readChain_append ihleft ihright (second.operator_not_mem (by decide))
  | ofOperand _ ih => exact ih
  | ofComparison h ih => exact h.readNegation_eq.trans ih
  | ofNegation h ih => exact (readChain_of_not_mem (h.operator_not_mem (by decide))).trans ih
  | ofConjunction h ih => exact (readChain_of_not_mem (h.operator_not_mem (by decide))).trans ih

end Items

section Gathering

variable {items : List Item} {stack : List (List Item)} {word rest : List Char}

theorem gather_word {word : String} (given : word.toList ≠ [])
    (inside : ∀ c ∈ word.toList, inWord c = true) (ends : rest.head?.any inWord = false) :
    gather (words (word.toList ++ rest)) (items :: stack) =
      gather (words rest) ((items ++ [.word word]) :: stack) := by
  have hne {mark : Char} (hmark : inWord mark = false) : word.toList ≠ [mark] := by
    intro hword
    have hinside := inside mark (hword ▸ List.mem_cons_self)
    rw [hmark] at hinside
    cases hinside
  rw [words_append given inside ends, gather, String.ofList_toList]
  · exact hne rfl
  · intro _ _ hword
    exact absurd hword (hne rfl)
  · exact hne rfl

theorem gather_name {name : String} (h : isName name.toList = true)
    (ends : rest.head?.any inWord = false) :
    gather (words (name.toList ++ rest)) (items :: stack) =
      gather (words rest) ((items ++ [.word name]) :: stack) := by
  have hgiven : name.toList ≠ [] := by
    intro hnil
    rw [hnil] at h
    cases h
  exact gather_word hgiven (fun _ hc => inWord_of_mem_name h hc) ends

theorem gather_column {source name : String} (hsource : isName source.toList = true)
    (hname : isName name.toList = true) (ends : rest.head?.any inWord = false) :
    gather (words ((source ++ "." ++ name).toList ++ rest)) (items :: stack) =
      gather (words rest) ((items ++ [.word (source ++ "." ++ name)]) :: stack) := by
  apply gather_word
  · simp
  · intro c hc
    simp only [String.toList_append, List.mem_append] at hc
    rcases hc with (hc | hc) | hc
    · exact inWord_of_mem_name hsource hc
    · rw [List.mem_singleton.mp hc]
      rfl
    · exact inWord_of_mem_name hname hc
  · exact ends

theorem gather_placeholder (index : Nat) (ends : rest.head?.any inWord = false) :
    gather (words (("$" ++ Text.decimal index).toList ++ rest)) (items :: stack) =
      gather (words rest) ((items ++ [.word ("$" ++ Text.decimal index)]) :: stack) := by
  apply gather_word
  · simp
  · intro c hc
    rw [String.toList_append, Text.toList_decimal, List.mem_append] at hc
    rcases hc with hc | hc
    · rw [List.mem_singleton.mp hc]
      rfl
    · rcases Text.mem_decimalChars hc with rfl | hdigit
      · rfl
      · have hne (mark : Char) (hmark : mark.isDigit = false) : c ≠ mark := by
          rintro rfl
          rw [hmark] at hdigit
          cases hdigit
        simp [inWord, hne ' ' rfl, hne '(' rfl, hne ')' rfl]
  · exact ends

/-- From the text of the expression its items are gathered. -/
def Gathered (e : Expr) : Prop :=
  ∀ (items : List Item) (stack : List (List Item)) (rest : List Char),
    rest.head?.any inWord = false →
      gather (words (e.text.toList ++ rest)) (items :: stack) =
        gather (words rest) ((items ++ e.items) :: stack)

/-- An operator stands between blanks. -/
theorem gathered_infix {left right e : Expr} (operator : String)
    (text : e.text = left.text ++ (" " ++ operator ++ " ") ++ right.text)
    (items : e.items = left.items ++ .word operator :: right.items)
    (given : operator.toList ≠ []) (inside : ∀ c ∈ operator.toList, inWord c = true)
    (first : Gathered left) (second : Gathered right) : Gathered e := by
  intro before stack rest ends
  have htext : e.text.toList ++ rest =
      left.text.toList ++ ' ' :: (operator.toList ++ ' ' :: (right.text.toList ++ rest)) := by
    simp [text]
  have hblank (cs : List Char) : words (' ' :: cs) = words cs := rfl
  rw [htext, first _ _ _ rfl, hblank, gather_word given inside rfl, hblank, second _ _ _ ends,
    items]
  simp

/-- What is said of an expression stands behind it. -/
theorem gathered_postfix {inner e : Expr} {tail : String} {said : List Item}
    (text : e.text = inner.text ++ tail) (items : e.items = inner.items ++ said)
    (apart : tail.toList.head? = some ' ')
    (gathered : ∀ (items : List Item) (stack : List (List Item)) (rest : List Char),
      rest.head?.any inWord = false →
        gather (words (tail.toList ++ rest)) (items :: stack) =
          gather (words rest) ((items ++ said) :: stack))
    (first : Gathered inner) : Gathered e := by
  intro before stack rest ends
  have htext : e.text.toList ++ rest = inner.text.toList ++ (tail.toList ++ rest) := by
    simp [text]
  have hends : (tail.toList ++ rest).head?.any inWord = false := by
    rw [List.head?_append, apart]
    rfl
  rw [htext, first _ _ _ hends, gathered _ _ _ ends, items, List.append_assoc]

theorem Legible.gathered {e : Expr} {level : Level} (h : Legible level e) : Gathered e := by
  have hblank (cs : List Char) : words (' ' :: cs) = words cs := rfl
  induction h with
  | column hsource hname => exact fun _ _ _ ends => gather_column hsource hname ends
  | bare hname => exact fun _ _ _ ends => gather_name hname ends
  | placeholder index => exact fun _ _ _ ends => gather_placeholder index ends
  | @group e inner ih =>
      intro items stack rest ends
      have htext : e.group.text.toList ++ rest = '(' :: (e.text.toList ++ ')' :: rest) := by
        simp [Expr.text]
      have hread : readDisjunction e.items = some e := inner.read_items
      have hopen (cs : List Char) : words ('(' :: cs) = ['('] :: words cs := rfl
      have hclose : words (')' :: rest) = [')'] :: words rest := rfl
      rw [htext, hopen, gather, ih _ _ _ rfl, List.nil_append, hclose, gather, hread]
      rfl
  | equal _ _ ihleft ihright =>
      exact gathered_infix "=" rfl rfl (by simp) (by simp [inWord]) ihleft ihright
  | isNull _ ih =>
      refine gathered_postfix rfl rfl rfl ?_ ih
      intro items stack rest ends
      have htext : " IS NULL".toList ++ rest =
          ' ' :: ("IS".toList ++ ' ' :: ("NULL".toList ++ rest)) := rfl
      rw [htext, hblank, gather_word (by simp) (by simp [inWord]) rfl, hblank,
        gather_word (by simp) (by simp [inWord]) ends, List.append_assoc]
      rfl
  | isNotNull _ ih =>
      refine gathered_postfix rfl rfl rfl ?_ ih
      intro items stack rest ends
      have htext : " IS NOT NULL".toList ++ rest =
          ' ' :: ("IS".toList ++ ' ' :: ("NOT".toList ++ ' ' :: ("NULL".toList ++ rest))) := rfl
      rw [htext, hblank, gather_word (by simp) (by simp [inWord]) rfl, hblank,
        gather_word (by simp) (by simp [inWord]) rfl, hblank,
        gather_word (by simp) (by simp [inWord]) ends, List.append_assoc, List.append_assoc]
      rfl
  | @negation e _ ih =>
      intro items stack rest ends
      have htext : e.negation.text.toList ++ rest =
          "NOT".toList ++ ' ' :: (e.text.toList ++ rest) := by
        simp [Expr.text]
      rw [htext, gather_word (by simp) (by simp [inWord]) rfl, hblank, ih _ _ _ ends,
        List.append_assoc]
      rfl
  | both _ _ ihleft ihright =>
      exact gathered_infix "AND" rfl rfl (by simp) (by simp [inWord]) ihleft ihright
  | either _ _ ihleft ihright =>
      exact gathered_infix "OR" rfl rfl (by simp) (by simp [inWord]) ihleft ihright
  | ofOperand _ ih => exact ih
  | ofComparison _ ih => exact ih
  | ofNegation _ ih => exact ih
  | ofConjunction _ ih => exact ih

/-- A condition is read off its text as it was written. -/
theorem Legible.ofText?_text {e : Expr} (h : Legible .disjunction e) : ofText? e.text = some e := by
  have hgathered := h.gathered [] [] [] rfl
  have hread : readDisjunction e.items = some e := h.read_items
  rw [List.append_nil, List.nil_append] at hgathered
  rw [ofText?, hgathered, words, gather, Option.bind_some, hread]

end Gathering

end Expr

section Placeholders

/-- The numbers that stand behind dollar signs in a text, in order. -/
def placeholdersIn : List Char → List Nat
  | [] => []
  | '$' :: rest =>
    match Text.readNat? (rest.takeWhile Char.isDigit) with
    | some index => index :: placeholdersIn rest
    | none => placeholdersIn rest
  | _ :: rest => placeholdersIn rest

variable {cs rest : List Char}

theorem placeholdersIn_append_of_not_mem (h : '$' ∉ cs) :
    placeholdersIn (cs ++ rest) = placeholdersIn rest := by
  induction cs with
  | nil => rfl
  | cons c more ih =>
      have hc : c ≠ '$' := by
        rintro rfl
        exact h List.mem_cons_self
      rw [List.cons_append, placeholdersIn, ih fun hmem => h (List.mem_cons_of_mem _ hmem)]
      exact hc

theorem placeholdersIn_of_not_mem (h : '$' ∉ cs) : placeholdersIn cs = [] := by
  rw [← List.append_nil cs, placeholdersIn_append_of_not_mem h, placeholdersIn]

/-- The number of a placeholder ends where no digit follows. -/
theorem placeholdersIn_append (ends : rest.head?.any Char.isDigit = false) :
    placeholdersIn (cs ++ rest) = placeholdersIn cs ++ placeholdersIn rest := by
  have hnone : rest.takeWhile Char.isDigit = [] := by
    cases rest with
    | nil => rfl
    | cons c later => exact List.takeWhile_cons_of_neg (by simpa using ends)
  induction cs with
  | nil => rfl
  | cons c more ih =>
      have hdigits : (more ++ rest).takeWhile Char.isDigit = more.takeWhile Char.isDigit := by
        rw [List.takeWhile_append, hnone]
        split
        · next hall =>
            rw [List.append_nil]
            exact (List.IsPrefix.eq_of_length (List.takeWhile_prefix _) hall).symm
        · rfl
      by_cases hc : c = '$'
      · subst hc
        rw [List.cons_append, placeholdersIn, placeholdersIn, hdigits, ih]
        split
        · rfl
        · rfl
      · rw [List.cons_append, placeholdersIn, placeholdersIn, ih]
        · exact hc
        · exact hc

theorem placeholdersIn_infix {whole left mark right : String}
    (text : whole = left ++ mark ++ right) (apart : mark.toList.head? = some ' ')
    (plain : '$' ∉ mark.toList) :
    placeholdersIn whole.toList = placeholdersIn left.toList ++ placeholdersIn right.toList := by
  have hends : (mark.toList ++ right.toList).head?.any Char.isDigit = false := by
    rw [List.head?_append, apart]
    rfl
  rw [text, String.toList_append, String.toList_append, List.append_assoc,
    placeholdersIn_append hends, placeholdersIn_append_of_not_mem plain]

/-- Text without a placeholder may stand around. -/
theorem placeholdersIn_around {whole front inner back : String}
    (text : whole = front ++ inner ++ back) (plain : '$' ∉ front.toList)
    (ends : back.toList.head?.any Char.isDigit = false) (plain' : '$' ∉ back.toList) :
    placeholdersIn whole.toList = placeholdersIn inner.toList := by
  rw [text, String.toList_append, String.toList_append, List.append_assoc,
    placeholdersIn_append_of_not_mem plain, placeholdersIn_append ends,
    placeholdersIn_of_not_mem plain', List.append_nil]

namespace Expr

/-- The numbers of the placeholders, in the order of their places. -/
def placeholders : Expr → List Nat
  | .placeholder index | .typed index _ => [index]
  | .column _ _ | .bare _ | .number _ => []
  | .equal left right | .notDistinct left right | .both left right | .either left right
  | .coalesce left right => left.placeholders ++ right.placeholders
  | .isNull e | .isNotNull e | .negation e | .group e => e.placeholders

theorem placeholdersIn_placeholder (index : Nat) :
    placeholdersIn (placeholder index).text.toList = [index] := by
  have hdigits := Text.isDigits_toDigits index
  have htext : (placeholder index).text.toList = '$' :: Nat.toDigits 10 index := by
    rw [text, String.toList_append, Text.toList_decimal]
    rfl
  have hdollar : '$' ∉ Nat.toDigits 10 index := fun hmem => absurd (hdigits.2 _ hmem) (by decide)
  have hall : (Nat.toDigits 10 index).takeWhile Char.isDigit = Nat.toDigits 10 index :=
    List.takeWhile_eq_self_iff.mpr hdigits.2
  rw [htext, placeholdersIn, hall, hdigits.readNat?, Text.placeValue_toDigits,
    placeholdersIn_of_not_mem hdollar]

/-- The placeholders of a condition stand in its text. -/
theorem Legible.placeholdersIn_text {e : Expr} {level : Level} (h : Legible level e) :
    placeholdersIn e.text.toList = e.placeholders := by
  induction h with
  | @column source name hsource hname =>
      apply placeholdersIn_of_not_mem
      have hdollar : '$' ∉ source.toList := not_mem_name hsource rfl
      have hdollar' : '$' ∉ name.toList := not_mem_name hname rfl
      simp [text, hdollar, hdollar']
  | bare hname => exact placeholdersIn_of_not_mem (not_mem_name hname rfl)
  | placeholder index => exact placeholdersIn_placeholder index
  | group _ ih => exact (placeholdersIn_around rfl (by decide) rfl (by decide)).trans ih
  | equal _ _ ihleft ihright =>
      rw [text, placeholdersIn_infix rfl rfl (by decide), ihleft, ihright, placeholders]
  | @isNull e _ ih =>
      have htext : e.isNull.text = "" ++ e.text ++ " IS NULL" := by simp [text]
      exact (placeholdersIn_around htext (by decide) rfl (by decide)).trans ih
  | @isNotNull e _ ih =>
      have htext : e.isNotNull.text = "" ++ e.text ++ " IS NOT NULL" := by simp [text]
      exact (placeholdersIn_around htext (by decide) rfl (by decide)).trans ih
  | @negation e _ ih =>
      have htext : e.negation.text = "NOT " ++ e.text ++ "" := by simp [text]
      exact (placeholdersIn_around htext (by decide) rfl (by decide)).trans ih
  | both _ _ ihleft ihright =>
      rw [text, placeholdersIn_infix rfl rfl (by decide), ihleft, ihright, placeholders]
  | either _ _ ihleft ihright =>
      rw [text, placeholdersIn_infix rfl rfl (by decide), ihleft, ihright, placeholders]
  | ofOperand _ ih => exact ih
  | ofComparison _ ih => exact ih
  | ofNegation _ ih => exact ih
  | ofConjunction _ ih => exact ih

end Expr

end Placeholders

end AccessGrants.Sql
