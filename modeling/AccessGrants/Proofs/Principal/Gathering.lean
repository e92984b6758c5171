import AccessGrants.Proofs.Principal.Enumeration

/-!
Sets of tokens by what was put into them. A set begins empty, with the token that
everyone holds, or with the tokens of a list, and then texts are put in and looked
for in any order. What a call answers depends on the texts that were there before
it and on nothing else, neither on their order nor on how often they came; the
tokens of a set stand in the order of their bytes, and a text is found by looking
along this order.
-/

namespace AccessGrants.PrincipalSet

open SortedSet

/-- How a set begins. -/
inductive Start where
  | empty
  | anonymous
  | collected (tokens : List Token)

def Start.set : Start → PrincipalSet
  | .empty => SortedSet.empty
  | .anonymous => PrincipalSet.anonymous
  | .collected tokens => .ofList tokens

/-- The tokens that a set begins with, as they were given. -/
def Start.tokens : Start → List Token
  | .empty => []
  | .anonymous => [Token.everyone]
  | .collected tokens => tokens

inductive Call where
  | insert (text : String)
  | contains (text : String)
  deriving DecidableEq, Repr

/-- The token that a call puts in, if it was not there yet. -/
def Call.brought : Call → Option Token
  | .insert text => some ⟨text⟩
  | .contains _ => none

/-- What a call is to answer where these tokens are present: whether a text is
new, or whether it is there. -/
def Call.expected (present : List Token) : Call → Bool
  | .insert text => ⟨text⟩ ∉ present
  | .contains text => ⟨text⟩ ∈ present

/-- The answer to a call, and the set that it leaves. -/
def perform (set : PrincipalSet) : Call → Bool × PrincipalSet
  | .insert text => set.add ⟨text⟩
  | .contains text => (set.contains ⟨text⟩, set)

def after (set : PrincipalSet) (calls : List Call) : PrincipalSet :=
  calls.foldl (fun set call => (perform set call).2) set

/-- The answers to calls, in their order. -/
def answers (set : PrincipalSet) : List Call → List Bool
  | [] => []
  | call :: rest => (perform set call).1 :: answers (perform set call).2 rest

/-- Every token that was given at the start or put in later, as often as it came. -/
def given (start : Start) (calls : List Call) : List Token :=
  start.tokens ++ calls.filterMap Call.brought

/-- The set is that of the tokens which were given, however they came. -/
structure Faithful (set : PrincipalSet) (tokens : List Token) : Prop where
  answers : ∀ call, (perform set call).1 = call.expected tokens
  size : set.size = tokens.dedup.length
  isEmpty : set.isEmpty = true ↔ tokens = []
  listed : ∀ token, token ∈ set.toList ↔ token ∈ tokens
  nodup : set.toList.Nodup
  ascending : set.toList.Pairwise fun a b => a.bytes < b.bytes
  /-- The first token that is not below a text is the text itself if the text is
  there, and another one or none if it is not. -/
  found : ∀ text, (set.toList.find? fun token => ¬ token.bytes < (Token.mk text).bytes) =
    some ⟨text⟩ ↔ ⟨text⟩ ∈ tokens

variable {set : PrincipalSet} {tokens : List Token} {token : Token}

theorem Start.mem_set (start : Start) : token ∈ start.set ↔ token ∈ start.tokens := by
  cases start with
  | empty => simp [set, tokens]
  | anonymous => simp [set, tokens, PrincipalSet.anonymous]
  | collected given => exact mem_ofList

theorem mem_perform (call : Call) :
    token ∈ (perform set call).2 ↔ token ∈ set ∨ token ∈ call.brought := by
  cases call with
  | insert text =>
      simp only [perform, add, mem_insert, Call.brought, Option.mem_some_iff]
      rw [or_comm, eq_comm]
  | contains text => simp [perform, Call.brought]

theorem mem_after (calls : List Call) :
    token ∈ after set calls ↔ token ∈ set ∨ token ∈ calls.filterMap Call.brought := by
  induction calls generalizing set with
  | nil => simp [after]
  | cons call rest ih =>
      have hrest : token ∈ after set (call :: rest) ↔
          token ∈ (perform set call).2 ∨ token ∈ rest.filterMap Call.brought := ih
      rw [hrest, mem_perform, or_assoc]
      simp [List.mem_filterMap]

/-- In an ascending list the first token that is not below the wanted one is the
wanted one or comes behind its place. -/
theorem find?_eq_some_iff_mem {items : List Token}
    (ascending : items.Pairwise fun a b => a.bytes < b.bytes) (wanted : Token) :
    (items.find? fun item => ¬ item.bytes < wanted.bytes) = some wanted ↔ wanted ∈ items := by
  constructor
  · exact List.mem_of_find?_eq_some
  · intro hmem
    induction items with
    | nil => cases hmem
    | cons first rest ih =>
        obtain ⟨hfirst, hrest⟩ := List.pairwise_cons.mp ascending
        rcases List.mem_cons.mp hmem with rfl | hlater
        · rw [List.find?_cons_of_pos]
          simp
        · have hbelow : first.bytes < wanted.bytes := hfirst wanted hlater
          rw [List.find?_cons_of_neg (by simpa using hbelow)]
          exact ih hrest hlater

theorem faithful_of_mem_iff (h : ∀ token, token ∈ set ↔ token ∈ tokens) : Faithful set tokens := by
  have hascending : set.toList.Pairwise fun a b => a.bytes < b.bytes :=
    set.ascending.imp Token.compare_lt_iff.mp
  refine ⟨?_, size_eq_length_dedup h, isEmpty_iff h, h, nodup_of_ascending set.ascending,
    hascending, ?_⟩
  · intro call
    have hcontains (text : String) : set.contains ⟨text⟩ = decide (⟨text⟩ ∈ tokens) :=
      decide_eq_decide.mpr (h ⟨text⟩)
    cases call with
    | insert text => simp [perform, add, Call.expected, hcontains]
    | contains text => exact hcontains text
  · intro text
    rw [find?_eq_some_iff_mem hascending]
    exact h ⟨text⟩

theorem faithful_after (start : Start) (calls : List Call) :
    Faithful (after start.set calls) (given start calls) := by
  apply faithful_of_mem_iff
  intro token
  rw [mem_after, start.mem_set, given, List.mem_append]

theorem answers_append (calls later : List Call) :
    answers set (calls ++ later) = answers set calls ++ answers (after set calls) later := by
  induction calls generalizing set with
  | nil => rfl
  | cons call rest ih => exact congrArg ((perform set call).1 :: ·) ih

theorem length_answers (calls : List Call) : (answers set calls).length = calls.length := by
  induction calls generalizing set with
  | nil => rfl
  | cons call rest ih => exact congrArg (· + 1) ih

/-- Whichever way a set begins and whatever calls come, the set is that of the
tokens which were given, and each call on the way answers by those given before
it. Two sets are the same exactly if they were given the same tokens. -/
theorem sets_hold_what_was_given (start : Start) (calls : List Call) :
    Faithful (after start.set calls) (given start calls) ∧
      (∀ before call later, (answers start.set (before ++ call :: later))[before.length]? =
        some (call.expected (given start before))) ∧
      ∀ start' calls', after start.set calls = after start'.set calls' ↔
        ∀ token, token ∈ given start calls ↔ token ∈ given start' calls' := by
  refine ⟨faithful_after start calls, ?_, ?_⟩
  · intro before call later
    have hplace : before.length = (answers start.set before).length := (length_answers before).symm
    rw [answers_append, hplace, List.getElem?_append_right (Nat.le_refl _), Nat.sub_self,
      ← (faithful_after start before).answers call]
    rfl
  · intro start' calls'
    have hlisted := (faithful_after start calls).listed
    have hlisted' := (faithful_after start' calls').listed
    constructor
    · intro same token
      rw [← hlisted, ← hlisted', same]
    · intro same
      apply eq_of_mem_iff
      intro token
      exact (hlisted token).trans ((same token).trans (hlisted' token).symm)

/-- An empty text comes first, a text before those that it begins, and one of two
bytes for a character behind those of one byte. -/
example : (after Start.anonymous.set [.insert "é", .insert "ab", .insert "", .insert "z",
    .insert "a", .insert "ab", .insert "system.Everyone"]).toList.map Token.text =
    ["", "a", "ab", "system.Everyone", "z", "é"] := by decide

end AccessGrants.PrincipalSet
