import Chronicle.Proofs.Keys
import Chronicle.Settings.Load
/-!
# Documents

Both readers of settings files give well-keyed values (`Settings.fileLayer_wellKeyed`): JSON keeps
the last of two entries with one key, TOML refuses the second. `Gives` follows a property of what is
read from the parts of a reader to the whole.
-/

namespace Chronicle

open Datum (WellKeyed IsScalar)

/-- Whatever value a computation gives has this property: with it goes a proof of it. -/
def Gives {m : Type → Type} [Monad m] {α : Type} (x : m α) (p : α → Prop) : Prop :=
  ∃ proven : m { a // p a }, Subtype.val <$> proven = x

namespace Gives

section Lawful

variable {m : Type → Type} [Monad m] [LawfulMonad m] {α β : Type} {p : α → Prop} {q : β → Prop}

theorem pure {a : α} (h : p a) : Gives (Pure.pure a : m α) p :=
  ⟨Pure.pure ⟨a, h⟩, map_pure _ _⟩

theorem trivial (x : m α) : Gives x fun _ => True :=
  ⟨(fun a => ⟨a, .intro⟩) <$> x, by rw [← comp_map]; exact id_map x⟩

theorem bind {x : m β} {f : β → m α} (first : Gives x q) (second : ∀ b, q b → Gives (f b) p) :
    Gives (x >>= f) p := by
  obtain ⟨proven, rfl⟩ := first
  obtain ⟨next, given⟩ := Classical.axiomOfChoice fun b : { b // q b } => second b.1 b.2
  refine ⟨proven >>= next, ?_⟩
  rw [map_bind, bind_map_left]
  exact bind_congr given

theorem imp {x : m α} {p' : α → Prop} (h : Gives x p) (weaker : ∀ a, p a → p' a) : Gives x p' := by
  obtain ⟨proven, rfl⟩ := h
  exact ⟨(fun a => ⟨a.1, weaker a.1 a.2⟩) <$> proven, (comp_map _ _ proven).symm⟩

theorem after {x : m β} {f : β → m α} (second : ∀ b, Gives (f b) p) : Gives (x >>= f) p :=
  (trivial x).bind fun b _ => second b

end Lawful

/-- Of an option it says what one expects. -/
theorem option_iff {α : Type} {p : α → Prop} {x : Option α} :
    Gives x p ↔ ∀ a, x = some a → p a := by
  constructor
  · rintro ⟨proven, rfl⟩ a given
    obtain ⟨b, -, rfl⟩ := Option.map_eq_some_iff.1 given
    exact b.2
  · intro h
    cases x with
    | none => exact ⟨none, rfl⟩
    | some a => exact ⟨some ⟨a, h a rfl⟩, rfl⟩

theorem ite {m : Type → Type} [Monad m] {α : Type} {p : α → Prop} {c : Prop} [Decidable c]
    {x y : m α} (one : Gives x p) (other : Gives y p) : Gives (if c then x else y) p := by
  split
  · exact one
  · exact other

end Gives

/-! ## JSON -/

namespace Json

section Readers

variable {α : Type} {p : α → Prop} {item : Reader α}

theorem gives_throw (d : Defect) : Gives (throw d : Reader α) p := ⟨throw d, rfl⟩

theorem of_gives (h : Gives item p) {a : α} {bs rest : List UInt8}
    (read : item bs = .ok (a, rest)) : p a := by
  obtain ⟨proven, rfl⟩ := h
  change Except.bind (proven bs) (fun x => .ok (x.1.1, x.2)) = _ at read
  cases first : proven bs with
  | error d => rw [first] at read; cases read
  | ok x => rw [first] at read; cases read; exact x.1.2

theorem elements_gives (each : Gives item p) (fuel : Nat) (first : Bool) :
    Gives (elements item fuel first) fun xs => ∀ x ∈ xs, p x := by
  induction fuel generalizing first with
  | zero => exact gives_throw _
  | succ fuel ih =>
    have more : Gives (do let x ← item; let xs ← elements item fuel false; return x :: xs)
        fun xs => ∀ x ∈ xs, p x :=
      each.bind fun x hx => (ih false).bind fun xs hxs => .pure (by simpa using ⟨hx, hxs⟩)
    unfold elements
    refine .after fun c => .ite (.after fun _ => .pure (by simp)) ?_
    exact .ite (.after fun _ => .after fun _ => .ite (.after fun _ => more) more) more

theorem member_gives (each : Gives item p) : Gives (member item) fun e => p e.2 := by
  unfold member
  exact .after fun _ => .after fun _ => .after fun _ => each.bind fun _ h => .pure h

theorem members_gives (each : Gives item p) (fuel : Nat) (first : Bool) :
    Gives (members item fuel first) fun es => ∀ e ∈ es, p e.2 := by
  induction fuel generalizing first with
  | zero => exact gives_throw _
  | succ fuel ih =>
    have more : Gives (do let m ← member item; let ms ← members item fuel false; return m :: ms)
        fun es => ∀ e ∈ es, p e.2 :=
      (member_gives each).bind fun e he => (ih false).bind fun es hes => .pure (by
        simpa only [List.forall_mem_cons] using ⟨he, hes⟩)
    unfold members
    refine .after fun c => .ite (.after fun _ => .pure (by simp)) ?_
    exact .ite (.after fun _ => more) more

end Readers

theorem Numeral.value?_isScalar {n : Numeral} {d : Datum} (h : n.value? = some d) :
    d.IsScalar := by
  unfold Numeral.value? at h
  simp only at h
  split at h
  · split at h
    · cases h; exact trivial
    · split at h <;> cases h <;> exact trivial
  · obtain ⟨x, -, rfl⟩ := Option.map_eq_some_iff.1 h
    exact trivial

theorem number_gives : Gives number IsScalar := by
  unfold number
  refine .after fun n => ?_
  split
  next d read => exact .pure (Numeral.value?_isScalar read)
  next => exact gives_throw _

theorem scalar_gives (first : Char) : Gives (scalar first) IsScalar := by
  unfold scalar
  split
  · exact .after fun _ => .pure trivial
  · exact .after fun _ => .pure trivial
  · exact .after fun _ => .pure trivial
  · exact .after fun _ => .after fun _ => .pure trivial
  · exact .ite number_gives (gives_throw _)

theorem tableOf_wellKeyed {es : List (String × Datum)} (values : ∀ e ∈ es, e.2.WellKeyed) :
    (tableOf es).WellKeyed := by
  suffices ∀ t, (Datum.table t).WellKeyed →
      (Datum.table (es.foldl (fun t e => Datum.put e.1 e.2 t) t)).WellKeyed from this [] .empty
  induction es with
  | nil => exact fun t h => h
  | cons e es ih =>
    obtain ⟨value, more⟩ := List.forall_mem_cons.1 values
    exact fun t h => ih more _ (h.put value)

theorem value_gives (depth : Nat) : Gives (value depth) WellKeyed := by
  have bare (c : Char) : Gives (scalar c) WellKeyed :=
    (scalar_gives c).imp fun _ => .scalar
  induction depth with
  | zero => exact .after bare
  | succ depth ih =>
    unfold value
    refine .after fun c => ?_
    split
    · exact .after fun _ => .after fun _ =>
        (elements_gives ih _ _).bind fun _ h => .pure (.array h)
    · exact .after fun _ => .after fun _ =>
        (members_gives ih _ _).bind fun _ h => .pure (tableOf_wellKeyed h)
    · exact bare c

theorem read_wellKeyed {bs : List UInt8} {d : Datum} (h : read bs = .ok d) : d.WellKeyed := by
  unfold read whole at h
  split at h
  · cases h
  · next a rest given =>
    split at h
    · cases h
      exact of_gives (value_gives maxDepth) given
    · cases h

end Json

/-! ## Trees of TOML -/

namespace Toml

/-- What is read so far stands for a well-keyed table. -/
def WellKeyedEntries (es : Entries) : Prop := (Datum.table (Node.entriesDatum es)).WellKeyed

section Trees

variable {key : String} {node : Node} {es : Entries}

theorem entriesDatum_eq_map : ∀ es : Entries,
    Node.entriesDatum es = es.map fun e => (e.1, e.2.datum)
  | [] => rfl
  | _ :: es => by rw [Node.entriesDatum, Node.entryDatum, entriesDatum_eq_map es]; rfl

theorem entriesDatum_put : ∀ es : Entries,
    Node.entriesDatum (Datum.put key node es) = Datum.put key node.datum (Node.entriesDatum es)
  | [] => rfl
  | (k, n) :: es => by
    rw [Datum.put, Node.entriesDatum, Node.entryDatum, Datum.put]
    split
    · rfl
    · rw [Node.entriesDatum, Node.entryDatum, entriesDatum_put es]

theorem lookup_entriesDatum : ∀ es : Entries,
    Datum.get? (Node.entriesDatum es) key = (es.lookup key).map Node.datum
  | [] => rfl
  | (k, n) :: es => by
    rw [Node.entriesDatum, Node.entryDatum, Datum.get?, List.lookup_cons, List.lookup_cons]
    split
    · rfl
    · exact lookup_entriesDatum es

theorem WellKeyedEntries.empty : WellKeyedEntries [] := by
  unfold WellKeyedEntries
  rw [Node.entriesDatum]
  exact WellKeyed.empty

theorem WellKeyedEntries.lookup (h : WellKeyedEntries es) (found : es.lookup key = some node) :
    node.datum.WellKeyed :=
  h.get? (by rw [lookup_entriesDatum, found]; rfl)

theorem WellKeyedEntries.put (h : WellKeyedEntries es) (new : node.datum.WellKeyed) :
    WellKeyedEntries (Datum.put key node es) := by
  unfold WellKeyedEntries
  rw [entriesDatum_put]
  exact WellKeyed.put h new

theorem WellKeyedEntries.append (h : WellKeyedEntries es) (fresh : es.lookup key = none)
    (new : node.datum.WellKeyed) : WellKeyedEntries (es ++ [(key, node)]) := by
  have absent : key ∉ es.map Prod.fst := Datum.get?_eq_none_iff.1 fresh
  rw [← Datum.put_of_notMem absent]
  exact h.put new

theorem WellKeyedEntries.filter (h : WellKeyedEntries es) (key : String) :
    WellKeyedEntries (es.filter (·.1 != key)) := by
  have same : Node.entriesDatum (es.filter (·.1 != key)) =
      (Node.entriesDatum es).filter (·.1 != key) := by
    rw [entriesDatum_eq_map, entriesDatum_eq_map, List.filter_map]
    rfl
  unfold WellKeyedEntries
  rw [same]
  exact WellKeyed.filter h _

theorem table_wellKeyed {origin : Origin} :
    (Node.table origin es).datum.WellKeyed ↔ WellKeyedEntries es := by
  rw [Node.datum]
  exact Iff.rfl

theorem tablesDatum_eq_map : ∀ tables : List Entries,
    Node.tablesDatum tables = tables.map fun es => .table (Node.entriesDatum es)
  | [] => rfl
  | _ :: tables => by rw [Node.tablesDatum, tablesDatum_eq_map tables]; rfl

theorem tables_wellKeyed {last : Entries} {earlier : List Entries} :
    (Node.tables last earlier).datum.WellKeyed ↔ ∀ es ∈ last :: earlier, WellKeyedEntries es := by
  have same : (Node.tables last earlier).datum =
      .array ((last :: earlier).map fun es => .table (Node.entriesDatum es)).reverse := by
    rw [Node.datum, tablesDatum_eq_map]
    rfl
  rw [same]
  constructor
  · rintro (bare | each | _) es listed
    · cases bare
    · exact each _ (List.mem_reverse.2 (List.mem_map_of_mem listed))
  · intro each
    refine .array fun x listed => ?_
    obtain ⟨es, among, rfl⟩ := List.mem_map.1 (List.mem_reverse.1 listed)
    exact each es among

/-! ### What statements do to a tree -/

theorem gives_none {α : Type} {p : α → Prop} : Gives (none : Option α) p := ⟨none, rfl⟩

/-- A change at the end of a path keeps the tree well keyed if it does so where it is made. -/
theorem descend_gives {α : Type} {q : α → Prop} {dotted : Bool}
    {act : Origin → Entries → Option (α × Origin × Entries)}
    (acts : ∀ origin es, WellKeyedEntries es →
      Gives (act origin es) fun r => q r.1 ∧ WellKeyedEntries r.2.2)
    (path : List String) (origin : Origin) (es : Entries) (h : WellKeyedEntries es) :
    Gives (descend dotted act path origin es) fun r => q r.1 ∧ WellKeyedEntries r.2.2 := by
  -- By the path: a table on the way is put back, changed, under the key where it was found.
  induction path generalizing origin es with
  | nil => exact acts origin es h
  | cons key path ih =>
    unfold descend
    split
    · exact (ih _ _ .empty).bind fun r kept => .pure ⟨kept.1, h.put (table_wellKeyed.2 kept.2)⟩
    · exact gives_none
    · next inside inner found =>
      have below := table_wellKeyed.1 (h.lookup found)
      refine .ite gives_none ?_
      exact (ih _ _ below).bind fun r kept => .pure ⟨kept.1, h.put (table_wellKeyed.2 kept.2)⟩
    · next last earlier found =>
      have below := tables_wellKeyed.1 (h.lookup found)
      obtain ⟨current, others⟩ := List.forall_mem_cons.1 below
      exact (ih _ _ current).bind fun r kept =>
        .pure ⟨kept.1, h.put (tables_wellKeyed.2 (List.forall_mem_cons.2 ⟨kept.2, others⟩))⟩

theorem addAs_gives {origin : Origin} (new : node.datum.WellKeyed) (h : WellKeyedEntries es) :
    Gives (addAs origin key node es) fun r => WellKeyedEntries r.2.2 := by
  refine Gives.option_iff.2 fun r added => ?_
  unfold addAs addNew at added
  split at added
  · cases added
  · next fresh => cases added; exact h.append fresh new

theorem insert_wellKeyed {path : List String} {value : Datum} {es' : Entries}
    (h : WellKeyedEntries es) (new : value.WellKeyed)
    (inserted : insert path key value es = some es') : WellKeyedEntries es' := by
  have closed : (Node.closed value).datum.WellKeyed := by rwa [Node.datum]
  obtain ⟨r, made, rfl⟩ := Option.map_eq_some_iff.1 inserted
  refine (Gives.option_iff.1 (descend_gives (q := fun _ => True) ?_ _ _ _ h) r made).2
  intro origin es kept
  exact .ite ((addAs_gives closed kept).imp fun _ => .intro .intro)
    (.ite gives_none ((addAs_gives closed kept).imp fun _ => .intro .intro))

theorem openTable_wellKeyed {path : List String} {table es' : Entries} (h : WellKeyedEntries es)
    (opened : openTable path key es = some (table, es')) :
    WellKeyedEntries table ∧ WellKeyedEntries es' := by
  obtain ⟨r, made, same⟩ := Option.map_eq_some_iff.1 opened
  cases same
  refine Gives.option_iff.1 (descend_gives (q := WellKeyedEntries) ?_ _ _ _ h) r made
  intro origin es kept
  split
  · exact .pure ⟨.empty, kept⟩
  · next inner found => exact .pure ⟨table_wellKeyed.1 (kept.lookup found), kept.filter key⟩
  · exact gives_none

theorem closeTable_wellKeyed {path : List String} {table es' : Entries} (h : WellKeyedEntries es)
    (new : WellKeyedEntries table) (closed : closeTable path key table es = some es') :
    WellKeyedEntries es' := by
  obtain ⟨r, made, rfl⟩ := Option.map_eq_some_iff.1 closed
  refine (Gives.option_iff.1 (descend_gives (q := fun _ => True) ?_ _ _ _ h) r made).2
  exact fun origin es kept => (addAs_gives (table_wellKeyed.2 new) kept).imp fun _ => .intro .intro

theorem pushTable_wellKeyed {path : List String} {table es' : Entries} (h : WellKeyedEntries es)
    (new : WellKeyedEntries table) (pushed : pushTable path key table es = some es') :
    WellKeyedEntries es' := by
  obtain ⟨r, made, rfl⟩ := Option.map_eq_some_iff.1 pushed
  refine (Gives.option_iff.1 (descend_gives (q := fun _ => True) ?_ _ _ _ h) r made).2
  intro origin es kept
  split
  · next fresh =>
    exact .pure ⟨trivial, kept.append fresh (tables_wellKeyed.2 (by simpa using new))⟩
  · next last earlier found =>
    have before := tables_wellKeyed.1 (kept.lookup found)
    exact .pure ⟨trivial, kept.put (tables_wellKeyed.2 (List.forall_mem_cons.2 ⟨new, before⟩))⟩
  · exact gives_none

end Trees

/-! ## Documents of TOML -/

theorem gives_failure {α : Type} {p : α → Prop} : Gives (failure : Scan α) p := ⟨failure, rfl⟩

theorem of_gives {α : Type} {p : α → Prop} {scan : Scan α} (h : Gives scan p) {a : α}
    {s rest : List Char} (read : scan s = some (a, rest)) : p a := by
  obtain ⟨proven, rfl⟩ := h
  change Option.bind (proven s) (fun x => some (x.1.1, x.2)) = _ at read
  obtain ⟨x, -, same⟩ := Option.bind_eq_some_iff.1 read
  cases same
  exact x.1.2

section Scalars

variable {s : List Char}

theorem bounded_gives (i : Int) : Gives (bounded i) IsScalar :=
  .ite (.pure trivial) gives_none

theorem integer?_gives : Gives (integer? s) IsScalar := by
  unfold integer?
  split
  · exact .after fun _ => bounded_gives _
  · exact .after fun _ => bounded_gives _
  · exact .after fun _ => bounded_gives _
  · exact .after fun _ => bounded_gives _

theorem finite_gives (x : Binary64) :
    Gives (match x with
      | .finite s m e => some (Datum.float (.finite s m e))
      | _ => none) IsScalar := by
  split
  · exact .pure trivial
  · exact gives_none

theorem digits?_gives (negative : Bool) : Gives (digits? negative s) IsScalar := by
  unfold digits?
  -- The power and the places are both taken from a match, so what follows stands there twice.
  cases s.dropWhile (!isExponent ·) <;>
    refine .after fun power => .after fun whole => ?_ <;>
    cases (s.takeWhile (!isExponent ·)).dropWhile (· != '.') <;>
    exact .after fun places => .after fun _ => finite_gives _

theorem float?_gives : Gives (float? s) IsScalar :=
  .ite (.pure trivial) (.ite (.pure trivial) (digits?_gives _))

theorem moment?_gives : Gives (moment? s) IsScalar := by
  refine Gives.option_iff.2 fun d read => ?_
  obtain ⟨_, -, rfl⟩ := Option.map_eq_some_iff.1 read
  trivial

theorem or_gives {α : Type} {p : α → Prop} {x y : Option α} (one : Gives x p)
    (other : Gives y p) : Gives (x.or y) p := by
  cases x with
  | none => exact other
  | some a => exact one

theorem scalar_gives : Gives scalar IsScalar := by
  unfold scalar
  refine .after fun s => ?_
  have read : Gives (scalar? s) IsScalar :=
    .ite (.pure trivial) (.ite (.pure trivial)
      (or_gives integer?_gives (or_gives float?_gives moment?_gives)))
  split
  · next d found => exact .pure (Gives.option_iff.1 read d found)
  · exact gives_failure

end Scalars

section Values

variable {item : Scan Datum}

theorem elements_gives (each : Gives item WellKeyed) (fuel : Nat) :
    Gives (elements item fuel) fun xs => ∀ x ∈ xs, x.WellKeyed := by
  induction fuel with
  | zero => exact gives_failure
  | succ fuel ih =>
    unfold elements
    refine .after fun _ => .after fun closed => .ite (.pure (by simp)) ?_
    refine each.bind fun x hx => .after fun _ => .after fun more => .ite ?_ ?_
    · exact ih.bind fun xs hxs => .pure (List.forall_mem_cons.2 ⟨hx, hxs⟩)
    · exact .after fun _ => .pure (List.forall_mem_singleton.2 hx)

theorem entry_gives (each : Gives item WellKeyed) : Gives (entry item) fun e => e.2.WellKeyed := by
  unfold entry
  exact .after fun _ => .after fun _ => .after fun _ => .after fun _ => each.bind fun _ h => .pure h

theorem addEntry_wellKeyed {e : List String × Datum} {es es' : Entries} (h : WellKeyedEntries es)
    (new : e.2.WellKeyed) (added : addEntry e es = some es') : WellKeyedEntries es' := by
  unfold addEntry at added
  split at added
  · exact insert_wellKeyed h new added
  · cases added

theorem inlineEntries_gives (each : Gives item WellKeyed) (fuel : Nat) {es : Entries}
    (h : WellKeyedEntries es) : Gives (inlineEntries item fuel es) WellKeyedEntries := by
  induction fuel generalizing es with
  | zero => exact gives_failure
  | succ fuel ih =>
    unfold inlineEntries
    refine .after fun _ => .after fun closed => .ite (.pure h) ?_
    refine (entry_gives each).bind fun e new => ?_
    split
    · exact gives_failure
    · next es' added =>
      have kept := addEntry_wellKeyed h new added
      exact .after fun _ => .after fun more => .ite (ih kept) (.after fun _ => .pure kept)

theorem value_gives (depth : Nat) : Gives (value depth) WellKeyed := by
  have bare : Gives scalar WellKeyed := scalar_gives.imp fun _ => .scalar
  have quoted : Gives (do return Datum.text (← anyString)) WellKeyed :=
    .after fun _ => .pure (.scalar trivial)
  induction depth with
  | zero =>
    unfold value
    refine .after fun c => ?_
    split
    · exact quoted
    · exact quoted
    · exact bare
  | succ depth ih =>
    unfold value
    refine .after fun c => ?_
    split
    · exact quoted
    · exact quoted
    · exact .after fun _ => .after fun _ => (elements_gives ih _).bind fun _ h => .pure (.array h)
    · exact .after fun _ => .after fun _ =>
        (inlineEntries_gives ih _ .empty).bind fun _ h => .pure (table_wellKeyed.2 h)
    · exact bare

end Values

section Statements

variable {d d' : Draft}

/-- The tables of a draft are well keyed, those that are complete and the current one. -/
structure Draft.WellKeyed (d : Draft) : Prop where
  root : WellKeyedEntries d.root
  current : WellKeyedEntries d.current

theorem Draft.WellKeyed.close (h : d.WellKeyed) {es : Entries} (closed : d.close = some es) :
    WellKeyedEntries es := by
  unfold Draft.close at closed
  split at closed
  · cases closed
    exact h.current
  · split at closed
    · exact pushTable_wellKeyed h.root h.current closed
    · exact closeTable_wellKeyed h.root h.current closed

theorem Draft.WellKeyed.begin (h : d.WellKeyed) (header : Header) :
    Gives (d.begin header) Draft.WellKeyed := by
  unfold Draft.begin
  refine (Gives.option_iff.2 fun _ => h.close).bind fun root kept => ?_
  refine .ite (.pure ⟨kept, .empty⟩) ?_
  refine (Gives.option_iff.2 fun r opened => openTable_wellKeyed kept opened).bind fun r parts => ?_
  exact .pure ⟨parts.2, parts.1⟩

theorem statement_gives (h : d.WellKeyed) : Gives (statement d) Draft.WellKeyed := by
  unfold statement
  refine .after fun _ => .after fun c => ?_
  split
  · exact .pure h
  · refine .after fun header => ?_
    split
    · next d' begun => exact .pure (Gives.option_iff.1 (h.begin header) d' begun)
    · exact gives_failure
  · refine .ite (.pure h) ((entry_gives (value_gives maxDepth)).bind fun e new => ?_)
    split
    · next current added => exact .pure ⟨h.root, addEntry_wellKeyed h.current new added⟩
    · exact gives_failure

theorem statements_gives (fuel : Nat) (h : d.WellKeyed) :
    Gives (statements fuel d) Draft.WellKeyed := by
  induction fuel generalizing d with
  | zero => exact gives_failure
  | succ fuel ih =>
    unfold statements
    refine .after fun c => ?_
    split
    · exact .pure h
    · exact (statement_gives h).bind fun d' kept => .after fun _ => ih kept

theorem read?_wellKeyed {s : List Char} {es : List (String × Datum)} (h : read? s = some es) :
    (Datum.table es).WellKeyed := by
  obtain ⟨⟨draft, rest⟩, read, h⟩ := Option.bind_eq_some_iff.1 h
  obtain ⟨root, closed, same⟩ := Option.bind_eq_some_iff.1 h
  cases same
  have kept : draft.WellKeyed := of_gives (statements_gives _ ⟨.empty, .empty⟩) read
  exact kept.close closed

end Statements

end Toml

/-! ## Files -/

namespace Settings

theorem readFile_wellKeyed {format : FileFormat} {content : List UInt8} {layer : Layer}
    (h : readFile format content = .ok layer) : (Datum.table layer).WellKeyed := by
  unfold readFile at h
  simp only at h
  split at h
  · split at h
    · next es read => cases h; exact Toml.read?_wellKeyed read
    · cases h
  · split at h
    · next es read => cases h; exact Json.read_wellKeyed read
    · cases h

theorem fileLayer_wellKeyed {files : Files} {vars : Variables} {named : Option String}
    {layer : Layer} (h : fileLayer files vars named = .ok layer) :
    (Datum.table layer).WellKeyed := by
  unfold fileLayer at h
  split at h
  · exact readFile_wellKeyed h
  · cases h
  · cases h
    exact .empty

end Settings

end Chronicle
