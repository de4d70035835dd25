import Chronicle.Settings.Layer
/-!
# Keys

A value is well keyed if each of its tables, at any depth, has one entry for each key. Such a value
stays what it is when it is laid over one that has no entries (`Datum.WellKeyed.overlay_eq`). A key
that is a plain identifier, or two with a dot between them, says where a layer puts a value
(`Layer.entries_overlay`, `Layer.entries_putEntry`).
-/

namespace Chronicle

namespace Datum

/-- A value without parts. -/
def IsScalar : Datum → Prop
  | .array _ => False
  | .table _ => False
  | _ => True

/-- Is this a table? -/
def isTable : Datum → Bool
  | .table _ => true
  | _ => false

theorem isTable_iff {d : Datum} : d.isTable ↔ ∃ es, d = .table es := by
  cases d <;> simp [isTable]

/-- Every table of a value, at any depth, has one entry for each key. -/
inductive WellKeyed : Datum → Prop where
  | scalar {d : Datum} (bare : d.IsScalar) : WellKeyed d
  | array {xs : List Datum} (elements : ∀ x ∈ xs, WellKeyed x) : WellKeyed (.array xs)
  | table {es : List (String × Datum)} (distinct : (es.map Prod.fst).Nodup)
      (values : ∀ e ∈ es, WellKeyed e.2) : WellKeyed (.table es)

/-! ## Entries -/

section Entries

variable {α : Type} {key : String} {value : α} {es : List (String × α)}

theorem get?_eq_none_iff : get? es key = none ↔ key ∉ es.map Prod.fst := by
  rw [get?, List.lookup_eq_none_iff]
  simp only [bne_iff_ne, List.mem_map, not_exists, not_and]
  exact ⟨fun h e listed same => h e listed same.symm, fun h e listed same => h e listed same.symm⟩

theorem mem_of_get? (h : get? es key = some value) : (key, value) ∈ es := by
  obtain ⟨before, after, rfl, -⟩ := List.lookup_eq_some_iff.1 h
  simp

theorem put_of_notMem (fresh : key ∉ es.map Prod.fst) :
    put key value es = es ++ [(key, value)] := by
  induction es with
  | nil => rfl
  | cons e es ih =>
    simp only [List.map_cons, List.mem_cons, not_or] at fresh
    rw [put, if_neg (Ne.symm fresh.1), ih fresh.2, List.cons_append]

theorem map_fst_put (listed : key ∈ es.map Prod.fst) :
    (put key value es).map Prod.fst = es.map Prod.fst := by
  induction es with
  | nil => cases listed
  | cons e es ih =>
    by_cases same : e.1 = key
    · rw [put, if_pos same, List.map_cons, List.map_cons]
    · have further : key ∈ es.map Prod.fst :=
        (List.mem_cons.1 listed).resolve_left (Ne.symm same)
      rw [put, if_neg same, List.map_cons, List.map_cons, ih further]

theorem nodup_put (distinct : (es.map Prod.fst).Nodup) :
    ((put key value es).map Prod.fst).Nodup := by
  by_cases listed : key ∈ es.map Prod.fst
  · rwa [map_fst_put listed]
  · rw [put_of_notMem listed, List.map_append]
    refine List.nodup_append.2 ⟨distinct, by simp, ?_⟩
    rintro k known _ last rfl
    have here : k = key := List.mem_singleton.1 last
    exact listed (here ▸ known)

theorem mem_put {e : String × α} (h : e ∈ put key value es) : e = (key, value) ∨ e ∈ es := by
  induction es with
  | nil => exact .inl (List.mem_singleton.1 h)
  | cons first es ih =>
    by_cases same : first.1 = key
    · rw [put, if_pos same, same] at h
      exact (List.mem_cons.1 h).imp id (List.mem_cons_of_mem _)
    · rw [put, if_neg same] at h
      rcases List.mem_cons.1 h with rfl | h
      · exact .inr List.mem_cons_self
      · exact (ih h).imp id (List.mem_cons_of_mem _)

end Entries

/-! ## Well-keyed tables -/

section Tables

variable {key : String} {value : Datum} {es : List (String × Datum)}

theorem wellKeyed_table_iff :
    (Datum.table es).WellKeyed ↔ (es.map Prod.fst).Nodup ∧ ∀ e ∈ es, e.2.WellKeyed := by
  constructor
  · rintro (bare | _ | ⟨distinct, values⟩)
    · cases bare
    · exact ⟨distinct, values⟩
  · rintro ⟨distinct, values⟩
    exact .table distinct values

theorem WellKeyed.empty : (Datum.table []).WellKeyed := .table (by simp) (by simp)

theorem WellKeyed.distinct (h : (Datum.table es).WellKeyed) : (es.map Prod.fst).Nodup :=
  (wellKeyed_table_iff.1 h).1

theorem WellKeyed.get? (h : (Datum.table es).WellKeyed) (found : Datum.get? es key = some value) :
    value.WellKeyed :=
  (wellKeyed_table_iff.1 h).2 _ (mem_of_get? found)

theorem WellKeyed.put (h : (Datum.table es).WellKeyed) (new : value.WellKeyed) :
    (Datum.table (Datum.put key value es)).WellKeyed := by
  obtain ⟨distinct, values⟩ := wellKeyed_table_iff.1 h
  refine .table (nodup_put distinct) fun e listed => ?_
  rcases mem_put listed with rfl | listed
  · exact new
  · exact values e listed

theorem WellKeyed.filter (h : (Datum.table es).WellKeyed) (keep : String × Datum → Bool) :
    (Datum.table (es.filter keep)).WellKeyed := by
  obtain ⟨distinct, values⟩ := wellKeyed_table_iff.1 h
  exact .table (distinct.sublist (List.filter_sublist.map _))
    fun e listed => values e (List.mem_filter.1 listed).1

/-! ## Laying over what has no entries -/

/-- Entries with new keys are added behind those there are. -/
theorem overlayEntries_eq_append (distinct : (es.map Prod.fst).Nodup)
    (values : ∀ e ∈ es, overlay .nil e.2 = e.2) {old : List (String × Datum)}
    (apart : ∀ e ∈ es, e.1 ∉ old.map Prod.fst) : overlayEntries old es = old ++ es := by
  induction es generalizing old with
  | nil => rw [overlayEntries, List.append_nil]
  | cons e es ih =>
    -- The first key is new, and none of the others is that key.
    obtain ⟨k, v⟩ := e
    have fresh : k ∉ old.map Prod.fst := apart (k, v) List.mem_cons_self
    have unlike := List.nodup_cons.1 distinct
    have kept : overlay .nil v = v := values (k, v) List.mem_cons_self
    rw [overlayEntries, get?_eq_none_iff.2 fresh, Option.getD_none, kept, put_of_notMem fresh,
      ih unlike.2 (fun e listed => values e (List.mem_cons_of_mem _ listed)), List.append_assoc,
      List.singleton_append]
    intro e listed known
    rw [List.map_append, List.mem_append] at known
    rcases known with known | last
    · exact apart e (List.mem_cons_of_mem _ listed) known
    · have same : e.1 = k := by simpa using last
      exact unlike.1 (List.mem_map.2 ⟨e, listed, same⟩)

theorem overlay_scalar {d : Datum} (bare : d.IsScalar) (old : Datum) : overlay old d = d := by
  cases d with
  | array xs => cases bare
  | table es => cases bare
  | _ => simp [overlay]

theorem WellKeyed.overlay_eq {d : Datum} (h : d.WellKeyed) {old : Datum}
    (bare : old.entries = []) : overlay old d = d := by
  induction h generalizing old with
  | scalar scalar => exact overlay_scalar scalar old
  | array => simp [overlay]
  | table distinct _ ih =>
    rw [overlay, bare, overlayEntries_eq_append distinct (fun e listed => ih e listed rfl)
      (by simp), List.nil_append]

end Tables

/-! ## Looking up what was laid over -/

/-- Each key is looked up in the upper entries first; what they have lies over what was there. -/
theorem get?_overlayEntries {new : List (String × Datum)} (distinct : (new.map Prod.fst).Nodup)
    (old : List (String × Datum)) (key : String) :
    get? (overlayEntries old new) key = match get? new key with
      | some d => some (overlay ((get? old key).getD .nil) d)
      | none => get? old key := by
  induction new generalizing old with
  | nil => rfl
  | cons e new ih =>
    obtain ⟨k, d⟩ := e
    have unlike := List.nodup_cons.1 distinct
    rw [overlayEntries, ih unlike.2]
    by_cases same : key = k
    · subst same
      have absent : get? new key = none := get?_eq_none_iff.2 unlike.1
      have first : get? ((key, d) :: new) key = some d := by simp [get?]
      rw [absent, first]
      exact get?_put_self _ _ _
    · have later : get? ((k, d) :: new) key = get? new key := by
        rw [get?, List.lookup_cons, beq_false_of_ne same]
        rfl
      rw [later, get?_put_of_ne _ _ same]

end Datum

/-! ## Keys of two names -/

theorem Scan.bind_of_eq {α β : Type} {x : Scan α} {f : α → Scan β} {s rest : List Char} {a : α}
    (first : x s = some (a, rest)) : (x >>= f) s = f a rest := by
  show Option.bind (x s) (fun r => f r.1 r.2) = _
  rw [first]
  rfl

theorem Scan.guard_bind {α : Type} {c : Prop} [Decidable c] (holds : c) {x : Scan α} :
    (do guard c; x) = x := by
  have passes : (guard c : Scan Unit) = pure () := if_pos holds
  rw [passes]
  rfl

namespace KeyPath

/-- A plain identifier. -/
def isIdentifier (s : String) : Bool := !s.toList.isEmpty && s.toList.all isNameChar

theorem isIdentifier_iff {s : String} :
    isIdentifier s ↔ s.toList ≠ [] ∧ ∀ c ∈ s.toList, isNameChar c = true := by
  simp [isIdentifier]

theorem row_append {is : Char → Bool} {cs rest : List Char} (each : ∀ c ∈ cs, is c = true)
    (stops : rest.head?.all (!is ·) = true) : Scan.row is (cs ++ rest) = some (cs, rest) := by
  unfold Scan.row
  rw [List.takeWhile_append_of_pos each, List.dropWhile_append_of_pos each]
  cases rest with
  | nil => simp
  | cons c rest =>
    have stop : is c = false := by simpa using stops
    simp [stop]

theorem name_append {s : String} (plain : isIdentifier s) (rest : List Char)
    (stops : rest.head?.all (!isNameChar ·) = true) :
    name (s.toList ++ rest) = some (.child s, rest) := by
  obtain ⟨some, each⟩ := isIdentifier_iff.1 plain
  unfold name
  rw [Scan.bind_of_eq (row_append each stops), Scan.guard_bind some, String.ofList_toList]
  rfl

theorem name_identifier {s : String} (plain : isIdentifier s) :
    name s.toList = some (.child s, []) := by
  simpa using name_append plain [] rfl

theorem steps_child {s : String} (plain : isIdentifier s) (fuel : Nat) :
    steps (fuel + 2) ('.' :: s.toList) = some ([.child s], []) := by
  show ((do let step ← name; return step :: (← steps (fuel + 1))) : Scan _) s.toList = _
  rw [Scan.bind_of_eq (name_identifier plain)]
  rfl

theorem ofKey_identifier {s : String} (plain : isIdentifier s) : ofKey s = [.child s] := by
  have read : path s.toList = some ([.child s], []) := by
    unfold path
    rw [Scan.bind_of_eq (name_identifier plain)]
    rfl
  rw [ofKey, read]

theorem ofKey_pair {part name : String} (plain : isIdentifier part) (plain' : isIdentifier name) :
    ofKey (part ++ "." ++ name) = [.child part, .child name] := by
  have spelled : KeyPath.name (part ++ "." ++ name).toList =
      some (.child part, '.' :: name.toList) := by
    simpa using name_append plain ('.' :: name.toList) rfl
  have read : path (part ++ "." ++ name).toList = some ([.child part, .child name], []) := by
    unfold path
    rw [Scan.bind_of_eq spelled]
    show Option.bind (steps (name.toList.length + 2) ('.' :: name.toList)) _ = _
    rw [steps_child plain']
    rfl
  rw [ofKey, read]

theorem pair_inj {part name part' name' : String} (plain : isIdentifier part)
    (plain' : isIdentifier name) (other : isIdentifier part') (other' : isIdentifier name')
    (h : part ++ "." ++ name = part' ++ "." ++ name') : part = part' ∧ name = name' := by
  have same := congrArg ofKey h
  rw [ofKey_pair plain plain', ofKey_pair other other'] at same
  simpa using same

end KeyPath

/-! ## One layer over another -/

namespace Layer

variable {base : Datum}

/-- Where all keys are plain, a layer lies over a table as its own table does. -/
theorem entries_overlay {layer : Layer} (plain : ∀ e ∈ layer, KeyPath.isIdentifier e.1) :
    (overlay base layer).entries = Datum.overlayEntries base.entries layer := by
  induction layer generalizing base with
  | nil => rfl
  | cons e layer ih =>
    obtain ⟨here, more⟩ := List.forall_mem_cons.1 plain
    show (overlay (putEntry base e) layer).entries = _
    rw [ih more, putEntry, KeyPath.ofKey_identifier here, Datum.overlayEntries]
    rfl

theorem overlay_append (layer layer' : Layer) :
    overlay base (layer ++ layer') = overlay (overlay base layer) layer' :=
  List.foldl_append

/-- A value under a key of two names is put into a section. -/
theorem entries_putEntry {part name : String} (plain : KeyPath.isIdentifier part)
    (plain' : KeyPath.isIdentifier name) {d : Datum} (bare : d.IsScalar) :
    (putEntry base (part ++ "." ++ name, d)).entries =
      Datum.put part (.table (Datum.put name d ((Datum.get? base.entries part).getD .nil).entries))
        base.entries := by
  rw [putEntry, KeyPath.ofKey_pair plain plain', Datum.change, Datum.change, Datum.change,
    Datum.overlay_scalar bare]
  rfl

end Layer

end Chronicle
