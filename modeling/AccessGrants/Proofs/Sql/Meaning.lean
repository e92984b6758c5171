import AccessGrants.Sql.Conversation
import Mathlib.Data.List.Dedup

/-!
What a query means. A condition has one of three values, and null, the unknown
one, is as good as false when rows are chosen. A join puts rows beside each
other in every way in which its condition is true; what the last condition
leaves is read off, without repetitions if the query says so, in an order that
is free as far as the query does not ask for one.
-/

namespace AccessGrants.Sql

/-- A row of a table: its values by the names of the columns. -/
abbrev Record : Type := String → Value

/-- The rows of the tables, by the names of the tables. -/
abbrev Tables : Type := String → List Record

/-- Rows that stand beside each other, each under its label. -/
abbrev Frame : Type := List (String × Record)

namespace Value

/-- Whether something equals what is unknown is unknown. -/
def equal : Value → Value → Value
  | .null, _ => .null
  | _, .null => .null
  | a, b => .bool (a = b)

def both : Value → Value → Value
  | .bool false, _ => .bool false
  | _, .bool false => .bool false
  | .bool true, .bool true => .bool true
  | _, _ => .null

def either : Value → Value → Value
  | .bool true, _ => .bool true
  | _, .bool true => .bool true
  | .bool false, .bool false => .bool false
  | _, _ => .null

def negation : Value → Value
  | .bool b => .bool !b
  | _ => .null

def coalesce : Value → Value → Value
  | .null, second => second
  | first, _ => first

/-- Where a value stands in a list, first by its kind: null comes last, and the
texts are left where they are, since their order is that of a collation. -/
def place : Value → Nat × Int
  | .int n => (0, n.toInt)
  | .bool false => (1, 0)
  | .bool true => (1, 1)
  | .text _ => (2, 0)
  | .null => (3, 0)

def atMost (a b : Value) : Bool :=
  a.place.1 < b.place.1 || (a.place.1 = b.place.1 && a.place.2 ≤ b.place.2)

variable {a b : Value}

theorem equal_eq_true : equal a b = .bool true ↔ a = b ∧ b ≠ .null := by
  cases a <;> cases b <;> simp [equal]

theorem both_eq_true : both a b = .bool true ↔ a = .bool true ∧ b = .bool true := by
  unfold both
  split <;> simp_all

theorem either_eq_true : either a b = .bool true ↔ a = .bool true ∨ b = .bool true := by
  unfold either
  split <;> simp_all

end Value

namespace Frame

/-- The row under a label; without one all its columns are null. -/
def column (frame : Frame) (label : String) : Record :=
  match frame.lookup label with
  | some record => record
  | none => fun _ => .null

variable {frame : Frame} {label other : String} {record : Record}

@[simp] theorem column_cons_self : column ((label, record) :: frame) label = record := by
  simp [column, List.lookup_cons_self]

@[simp] theorem column_cons_of_ne (h : label ≠ other) :
    column ((other, record) :: frame) label = column frame label := by
  have hbeq : (label == other) = false := by simpa using h
  simp [column, List.lookup_cons, hbeq]

/-- No row of the frame is under the label. -/
def Lacks (frame : Frame) (label : String) : Prop :=
  frame.lookup label = none

theorem column_append_of_ne (h : label ≠ other) :
    column (frame ++ [(other, record)]) label = column frame label := by
  have hbeq : (label == other) = false := by simpa using h
  simp [column, List.lookup_append, List.lookup_cons, hbeq]

theorem column_append_self (h : frame.Lacks label) :
    column (frame ++ [(label, record)]) label = record := by
  have hnone : frame.lookup label = none := h
  simp [column, List.lookup_append, hnone]

theorem lacks_append (h : frame.Lacks label) (hne : label ≠ other) :
    (frame ++ [(other, record)]).Lacks label := by
  have hnone : frame.lookup label = none := h
  have hbeq : (label == other) = false := by simpa using hne
  simp [Lacks, List.lookup_append, List.lookup_cons, hnone, hbeq]

theorem lacks_singleton (hne : label ≠ other) : Lacks [(other, record)] label := by
  have hnone : Lacks [] label := rfl
  exact lacks_append hnone hne

/-- Of two rows beside each other each is found under its own label. -/
theorem column_pair {first second : Record} (hne : label ≠ other) :
    column ([(label, first)] ++ [(other, second)]) label = first ∧
      column ([(label, first)] ++ [(other, second)]) other = second := by
  refine ⟨?_, column_append_self (lacks_singleton hne.symm)⟩
  rw [column_append_of_ne hne, column_cons_self]

end Frame

namespace Expr

def value (parameters : List Value) (frame : Frame) : Expr → Value
  | .column source name => frame.column source name
  | .bare name =>
    match frame with
    | [(_, record)] => record name
    | _ => .null
  | .placeholder index | .typed index _ => (parameters[index - 1]?).getD .null
  | .number n => .int (Int64.ofInt n)
  | .equal left right => .equal (left.value parameters frame) (right.value parameters frame)
  | .notDistinct left right => .bool (left.value parameters frame = right.value parameters frame)
  | .isNull e => .bool (e.value parameters frame = .null)
  | .isNotNull e => .bool (e.value parameters frame ≠ .null)
  | .both left right => .both (left.value parameters frame) (right.value parameters frame)
  | .either left right => .either (left.value parameters frame) (right.value parameters frame)
  | .negation e => .negation (e.value parameters frame)
  | .coalesce first second =>
    .coalesce (first.value parameters frame) (second.value parameters frame)
  | .group e => e.value parameters frame

/-- The condition is true, and neither false nor unknown. -/
def Holds (parameters : List Value) (frame : Frame) (condition : Expr) : Prop :=
  condition.value parameters frame = .bool true

instance (parameters : List Value) (frame : Frame) (condition : Expr) :
    Decidable (condition.Holds parameters frame) :=
  inferInstanceAs (Decidable (_ = _))

variable {parameters : List Value} {frame : Frame} {left right e : Expr}

@[simp] theorem holds_equal :
    (equal left right).Holds parameters frame ↔
      left.value parameters frame = right.value parameters frame ∧
        right.value parameters frame ≠ .null :=
  Value.equal_eq_true

@[simp] theorem holds_notDistinct :
    (notDistinct left right).Holds parameters frame ↔
      left.value parameters frame = right.value parameters frame := by
  rw [Holds, value, Value.bool.injEq]
  exact decide_eq_true_iff

@[simp] theorem holds_both :
    (both left right).Holds parameters frame ↔
      left.Holds parameters frame ∧ right.Holds parameters frame :=
  Value.both_eq_true

@[simp] theorem holds_either :
    (either left right).Holds parameters frame ↔
      left.Holds parameters frame ∨ right.Holds parameters frame :=
  Value.either_eq_true

@[simp] theorem holds_group :
    (group e).Holds parameters frame ↔ e.Holds parameters frame := Iff.rfl

@[simp] theorem holds_isNull :
    (isNull e).Holds parameters frame ↔ e.value parameters frame = .null := by
  simp [Holds, value]

@[simp] theorem holds_column {source name : String} :
    (column source name).Holds parameters frame ↔ frame.column source name = .bool true :=
  Iff.rfl

end Expr

/-- The name under which the columns of a source are found. -/
def Source.name (source : Source) : String :=
  source.label.getD source.table

def Source.frames (tables : Tables) (source : Source) : List Frame :=
  (tables source.table).map fun record => [(source.name, record)]

/-- Puts every row of the joined table beside each frame, and keeps the frames
of which the condition is true. -/
def Join.extend (tables : Tables) (parameters : List Value) (frames : List Frame) (join : Join) :
    List Frame :=
  frames.flatMap fun frame =>
    ((tables join.source.table).map fun record => frame ++ [(join.source.name, record)]).filter
      fun joined => join.condition.Holds parameters joined

namespace Select

variable (tables : Tables) (parameters : List Value) (query : Select)

/-- The frames of the source, extended by one join after the other. -/
def joined : List Frame :=
  query.joins.foldl (Join.extend tables parameters) (query.source.frames tables)

/-- The frames of the joins that the condition leaves. -/
def found : List Frame :=
  (query.joined tables parameters).filter fun frame =>
    query.condition.all fun condition => condition.Holds parameters frame

/-- The row that is read off a frame. -/
def row (frame : Frame) : Row :=
  query.columns.map (Expr.value parameters frame)

/-- What the row of a frame is ordered by. -/
def key (frame : Frame) : Value :=
  match query.order with
  | none => .null
  | some order => order.value parameters frame

/-- The rows with what they are ordered by. A query without repetitions is
ordered by one of its columns, so with the repeated row its key is repeated. -/
def entries : List (Value × Row) :=
  let entries := (query.found tables parameters).map fun frame =>
    (query.key parameters frame, query.row parameters frame)
  if query.distinct then entries.dedup else entries

/-- The rows are what the query asks for, in an order that it allows. -/
def Yields (rows : List Row) : Prop :=
  ∃ listing : List (Value × Row), listing.Perm (query.entries tables parameters) ∧
    listing.Pairwise (fun first second => first.1.atMost second.1 = true) ∧
      rows = listing.map Prod.snd

end Select

/-- The reply is one that the statement has over these tables. -/
inductive Answers (tables : Tables) (parameters : List Value) : Statement → Reply → Prop where
  | select {query : Select} {rows : List Row} {affected : Nat}
      (h : query.Yields tables parameters rows) :
      Answers tables parameters (.select query) ⟨rows, affected⟩
  | selectExists (query : Select) (affected : Nat) :
      Answers tables parameters (.selectExists query)
        ⟨[[.bool !(query.found tables parameters).isEmpty]], affected⟩

section Membership

variable {tables : Tables} {parameters : List Value} {frame : Frame}

theorem Source.mem_frames {source : Source} :
    frame ∈ source.frames tables ↔
      ∃ record ∈ tables source.table, frame = [(source.name, record)] := by
  simp [Source.frames, eq_comm]

theorem Join.mem_extend {join : Join} {frames : List Frame} :
    frame ∈ join.extend tables parameters frames ↔
      ∃ before ∈ frames, ∃ record ∈ tables join.source.table,
        frame = before ++ [(join.source.name, record)] ∧
          join.condition.Holds parameters frame := by
  simp only [Join.extend, List.mem_flatMap, List.mem_filter, List.mem_map, decide_eq_true_eq]
  constructor
  · rintro ⟨before, hbefore, ⟨record, hrecord, rfl⟩, hholds⟩
    exact ⟨before, hbefore, record, hrecord, rfl, hholds⟩
  · rintro ⟨before, hbefore, record, hrecord, rfl, hholds⟩
    exact ⟨before, hbefore, ⟨record, hrecord, rfl⟩, hholds⟩

/-- Neither the order nor the number of its repetitions decides whether a row is
in a reply. -/
theorem Select.Yields.mem_iff {query : Select} {rows : List Row} {row : Row}
    (h : query.Yields tables parameters rows) :
    row ∈ rows ↔ ∃ frame ∈ query.found tables parameters, row = query.row parameters frame := by
  obtain ⟨listing, hperm, _, rfl⟩ := h
  have hentries (entry : Value × Row) : entry ∈ query.entries tables parameters ↔
      ∃ frame ∈ query.found tables parameters,
        (query.key parameters frame, query.row parameters frame) = entry := by
    unfold Select.entries
    split
    · simp
    · simp
  simp only [List.mem_map, hperm.mem_iff, hentries]
  constructor
  · rintro ⟨entry, ⟨frame, hframe, rfl⟩, rfl⟩
    exact ⟨frame, hframe, rfl⟩
  · rintro ⟨frame, hframe, rfl⟩
    exact ⟨_, ⟨frame, hframe, rfl⟩, rfl⟩

end Membership

section Showing

variable {α : Type} {tables : Tables} {parameters : List Value} {frames : List Frame}
  {shows : Frame → α → Prop} {P Q : α → Prop}

/-- Each of the frames shows a thing with the property, and each of these things
is shown by one of the frames. -/
structure Show (frames : List Frame) (shows : Frame → α → Prop) (P : α → Prop) : Prop where
  sound : ∀ frame ∈ frames, ∃ thing, P thing ∧ shows frame thing
  complete : ∀ thing, P thing → ∃ frame ∈ frames, shows frame thing

theorem Show.congr (h : Show frames shows P) (hsame : ∀ thing, P thing ↔ Q thing) :
    Show frames shows Q := by
  have heq : P = Q := funext fun thing => propext (hsame thing)
  exact heq ▸ h

theorem Show.found {distinct : Bool} {columns : List Expr} {source : Source} {joins : List Join}
    {condition : Expr} {order : Option Expr}
    (h : Show (joins.foldl (Join.extend tables parameters) (source.frames tables)) shows P)
    (hholds : ∀ frame thing, shows frame thing →
      (condition.Holds parameters frame ↔ Q thing)) :
    Show (Select.found tables parameters ⟨distinct, columns, source, joins, some condition, order⟩)
      shows fun thing => P thing ∧ Q thing := by
  have hfound (frame : Frame) : frame ∈ Select.found tables parameters
      ⟨distinct, columns, source, joins, some condition, order⟩ ↔
      frame ∈ joins.foldl (Join.extend tables parameters) (source.frames tables) ∧
        condition.Holds parameters frame := by
    simp [Select.found, Select.joined]
  constructor
  · intro frame hframe
    obtain ⟨hjoined, hleft⟩ := (hfound frame).mp hframe
    obtain ⟨thing, hthing, hshows⟩ := h.sound frame hjoined
    exact ⟨thing, ⟨hthing, (hholds frame thing hshows).mp hleft⟩, hshows⟩
  · rintro thing ⟨hthing, hchosen⟩
    obtain ⟨frame, hjoined, hshows⟩ := h.complete thing hthing
    exact ⟨frame, (hfound frame).mpr ⟨hjoined, (hholds frame thing hshows).mpr hchosen⟩, hshows⟩

/-- Of things that have all the same first part, the second one tells enough. -/
theorem Show.second {β : Type} {shows : Frame → α × β → Prop} {P : α × β → Prop} {first : α}
    (h : Show frames shows P) (hfirst : ∀ pair, P pair → pair.1 = first) :
    Show frames (fun frame second => shows frame (first, second)) fun second =>
      P (first, second) := by
  constructor
  · intro frame hframe
    obtain ⟨⟨_, second⟩, hpair, hshows⟩ := h.sound frame hframe
    obtain rfl := hfirst _ hpair
    exact ⟨second, hpair, hshows⟩
  · intro second hsecond
    exact h.complete (first, second) hsecond

/-- If the row of a frame is made of what the frame shows, so is the reply. -/
theorem Show.mem_rows {query : Select} {reply : Reply} {cells : α → Row}
    (h : Show (query.found tables parameters) shows P)
    (hreply : Answers tables parameters (.select query) reply)
    (hrow : ∀ frame thing, shows frame thing → query.row parameters frame = cells thing)
    (row : Row) :
    row ∈ reply.rows ↔ ∃ thing, P thing ∧ row = cells thing := by
  cases hreply with
  | select hyields =>
      rw [hyields.mem_iff]
      constructor
      · rintro ⟨frame, hframe, rfl⟩
        obtain ⟨thing, hthing, hshows⟩ := h.sound frame hframe
        exact ⟨thing, hthing, hrow frame thing hshows⟩
      · rintro ⟨thing, hthing, rfl⟩
        obtain ⟨frame, hframe, hshows⟩ := h.complete thing hthing
        exact ⟨frame, hframe, (hrow frame thing hshows).symm⟩

/-- The reply to an existence query says whether there is any such thing. -/
theorem Show.answer {query : Select} {reply : Reply}
    (h : Show (query.found tables parameters) shows P)
    (hreply : Answers tables parameters (.selectExists query) reply) :
    ∃ answer, reply.rows = [[.bool answer]] ∧ (answer = true ↔ ∃ thing, P thing) := by
  cases hreply with
  | selectExists =>
      refine ⟨_, rfl, ?_⟩
      rw [Bool.not_eq_true', List.isEmpty_eq_false_iff_exists_mem]
      constructor
      · rintro ⟨frame, hframe⟩
        obtain ⟨thing, hthing, _⟩ := h.sound frame hframe
        exact ⟨thing, hthing⟩
      · rintro ⟨thing, hthing⟩
        obtain ⟨frame, hframe, _⟩ := h.complete thing hthing
        exact ⟨frame, hframe⟩

end Showing

section Responding

variable (tables : Tables)

theorem Value.atMost_total (a b : Value) : (a.atMost b || b.atMost a) = true := by
  simp only [atMost, Bool.or_eq_true, Bool.and_eq_true, decide_eq_true_eq]
  omega

theorem Value.atMost_trans (a b c : Value) (h : a.atMost b = true) (h' : b.atMost c = true) :
    a.atMost c = true := by
  simp only [atMost, Bool.or_eq_true, Bool.and_eq_true, decide_eq_true_eq] at h h' ⊢
  omega

theorem Value.int_eq_of_atMost {a b : Int64} (h : atMost (.int a) (.int b) = true)
    (h' : atMost (.int b) (.int a) = true) : a = b := by
  simp only [atMost, place, Nat.lt_irrefl, decide_false, Bool.false_or, decide_true,
    Bool.true_and] at h h'
  have hle := of_decide_eq_true h
  have hge := of_decide_eq_true h'
  exact Int64.toInt_inj.mp (by omega)

/-- Rows that the query yields. -/
def Select.rows (parameters : List Value) (query : Select) : List Row :=
  ((query.entries tables parameters).mergeSort fun first second =>
    first.1.atMost second.1).map Prod.snd

theorem Select.yields_rows (parameters : List Value) (query : Select) :
    query.Yields tables parameters (query.rows tables parameters) := by
  refine ⟨_, List.mergeSort_perm _ _, ?_, rfl⟩
  apply List.pairwise_mergeSort
  · intro first second third
    exact Value.atMost_trans first.1 second.1 third.1
  · intro first second
    exact Value.atMost_total first.1 second.1

/-- Where no two entries have one place, there is one order. -/
theorem Select.Yields.eq_rows {tables : Tables} {parameters : List Value} {query : Select}
    {rows : List Row} (h : query.Yields tables parameters rows)
    (told : ∀ first ∈ query.entries tables parameters,
      ∀ second ∈ query.entries tables parameters, first.1.atMost second.1 = true →
        second.1.atMost first.1 = true → first = second) :
    rows = query.rows tables parameters := by
  obtain ⟨listing, hperm, hsorted, rfl⟩ := h
  have hsorted' := List.pairwise_mergeSort
    (fun first second third => Value.atMost_trans first.1 second.1 third.1)
    (fun first second => Value.atMost_total first.1 second.1) (query.entries tables parameters)
  refine congrArg (List.map Prod.snd) (List.Perm.eq_of_pairwise ?_ hsorted hsorted' ?_)
  · intro first second hfirst hsecond
    exact told first (hperm.mem_iff.mp hfirst) second ((List.mergeSort_perm _ _).mem_iff.mp hsecond)
  · exact hperm.trans (List.mergeSort_perm _ _).symm

/-- A server that answers queries over these tables, and nothing else. -/
def respond (command : Command) : Except DatabaseError Reply :=
  match command.statement with
  | .select query => .ok ⟨query.rows tables command.parameters, 0⟩
  | .selectExists query =>
    .ok ⟨[[.bool !(query.found tables command.parameters).isEmpty]], 0⟩
  | _ => .error (.unreachable "read only")

end Responding

end AccessGrants.Sql
