import SqlAccess.Cursor
import SqlAccess.Proofs.Outcome

/-!
# How a column is read

A read of a column finds the column, fetches the raw value and converts it. The equations of this
module write that out, one for each way it can go.

Two cursors, or two references to columns, may do all this alike. Then no read tells them apart:

* `SameColumn`: a column, and the reads of it.
* `SameColumns`: all columns, and the reads of records as well.
-/

namespace SqlAccess

namespace Cursor

variable {S : Type} {c : Cursor S} {ref : ColumnRef} {i : Nat}

theorem atColumn_eq {α : Type} (resolved : c.resolve ref = .ok i) (f : Nat → StreamM Error α) :
    c.atColumn ref f = f i := by
  unfold atColumn
  rw [resolved]

theorem getAs_eq (resolved : c.resolve ref = .ok i) (t : Target) :
    c.getAs ref t = c.coerceColumn i t := atColumn_eq resolved _

theorem getValue_eq (resolved : c.resolve ref = .ok i) {t : Target}
    (default : (c.columnType i).defaultTarget = some t) : c.getValue ref = c.coerceColumn i t := by
  unfold getValue
  rw [atColumn_eq resolved, default]

/-- How a read as a host type goes, once its column is found. -/
theorem get_run (resolved : c.resolve ref = .ok i) (t : HostType) (ss : Streams) :
    c.get ref t ss =
      match c.coerceColumn i (.host t.kind) ss with
      | (.ok v, ss') =>
        (if t.accepts v then .ok v
          else .error (.coercion ⟨c.columnType i, .host t.kind, .unreadableAs v.kind t⟩), ss')
      | (.error e, ss') => (.error e, ss') := by
  unfold get
  rw [atColumn_eq resolved, bind_run]
  rcases c.coerceColumn i (.host t.kind) ss with ⟨_ | v, ss'⟩
  · rfl
  · dsimp only
    unfold HostType.read?
    cases t.accepts v with
    | true => rfl
    | false => rfl

/-- A missing value that is read as such. -/
theorem coerceColumn_null (fetched : c.fetch i = .ok .null) (allowed : c.allowNulls = true)
    {t : Target} (compatible : c.registry.isCompatible (c.columnType i) t = true) :
    c.coerceColumn i t = pure .null := by
  unfold coerceColumn
  rw [if_pos compatible, fetched]
  exact if_pos ⟨rfl, allowed⟩

/-- Any other value goes through the registry. -/
theorem coerceColumn_coerce {raw : Value} (fetched : c.fetch i = .ok raw)
    (present : ¬(raw = .null ∧ c.allowNulls = true)) {t : Target}
    (compatible : c.registry.isCompatible (c.columnType i) t = true) :
    c.coerceColumn i t =
      StreamM.mapError .coercion (c.registry.coerce raw (c.columnType i) t) := by
  unfold coerceColumn
  rw [if_pos compatible, fetched]
  exact if_neg (by rwa [Value.isNull_eq_true_iff])

theorem coerceColumn_unsupported {t : Target}
    (incompatible : c.registry.isCompatible (c.columnType i) t = false) :
    c.coerceColumn i t = throw (.coercion ⟨c.columnType i, t, .unsupported⟩) := by
  unfold coerceColumn
  rw [if_neg (by rw [incompatible]; nofun)]

/-! ## On what a read depends -/

variable {d : Cursor S} {ref' : ColumnRef}

theorem coerceColumn_congr (registry : c.registry = d.registry)
    (allowNulls : c.allowNulls = d.allowNulls) (type : c.columnType i = d.columnType i)
    (fetched : c.fetch i = d.fetch i) (t : Target) : c.coerceColumn i t = d.coerceColumn i t := by
  unfold coerceColumn
  rw [registry, allowNulls, type, fetched]

/-- The references lead the cursors to the same number, and there to a column of the same type with
the same converted values. -/
structure SameColumn (c d : Cursor S) (ref ref' : ColumnRef) : Prop where
  resolve : c.resolve ref = d.resolve ref'
  type : ∀ i, d.resolve ref' = .ok i → c.columnType i = d.columnType i
  converted : ∀ i, d.resolve ref' = .ok i → ∀ t, c.coerceColumn i t = d.coerceColumn i t

theorem sameColumn_of_resolve (here : c.resolve ref = .ok i) (there : d.resolve ref' = .ok i)
    (type : c.columnType i = d.columnType i)
    (converted : ∀ t, c.coerceColumn i t = d.coerceColumn i t) : SameColumn c d ref ref' := by
  refine ⟨here.trans there.symm, fun j found => ?_, fun j found => ?_⟩
  · obtain rfl : i = j := Except.ok.inj (there.symm.trans found)
    exact type
  · obtain rfl : i = j := Except.ok.inj (there.symm.trans found)
    exact converted

namespace SameColumn

variable (same : SameColumn c d ref ref')
include same

theorem atColumn {α : Type} {f g : Nat → StreamM Error α}
    (next : ∀ i, d.resolve ref' = .ok i → f i = g i) : c.atColumn ref f = d.atColumn ref' g := by
  unfold Cursor.atColumn
  rw [same.resolve]
  cases found : d.resolve ref' with
  | ok i => exact next i found
  | error e => rfl

theorem getAs (t : Target) : c.getAs ref t = d.getAs ref' t :=
  same.atColumn fun i found => same.converted i found t

theorem getValue : c.getValue ref = d.getValue ref' := by
  refine same.atColumn fun i found => ?_
  rw [same.type i found]
  cases (d.columnType i).defaultTarget with
  | some t => exact same.converted i found t
  | none => rfl

theorem get (t : HostType) : c.get ref t = d.get ref' t := by
  refine same.atColumn fun i found => ?_
  rw [same.converted i found, same.type i found]

theorem getBytes : c.getBytes ref = d.getBytes ref' := by
  unfold Cursor.getBytes
  rw [same.get]

theorem getText : c.getText ref = d.getText ref' := by
  unfold Cursor.getText
  rw [same.get]

theorem getClock (offset : Int) : c.getClock ref offset = d.getClock ref' offset := by
  unfold Cursor.getClock
  rw [same.get]

end SameColumn

/-- The cursors have the same columns, and the same conversions and converted values there. -/
structure SameColumns (c d : Cursor S) : Prop where
  checkRow : c.checkRow = d.checkRow
  columns : c.columns = d.columns
  compatible : ∀ i t, c.registry.isCompatible (c.columnType i) t =
    d.registry.isCompatible (d.columnType i) t
  converted : ∀ i t, c.coerceColumn i t = d.coerceColumn i t

namespace SameColumns

variable (same : SameColumns c d)
include same

theorem columnType (i : Nat) : c.columnType i = d.columnType i := by
  unfold Cursor.columnType
  rw [same.columns]

theorem column (ref : ColumnRef) : SameColumn c d ref ref := by
  refine ⟨?_, fun i _ => same.columnType i, fun i _ => same.converted i⟩
  unfold Cursor.resolve
  rw [same.checkRow, same.columns]

theorem incompatible (i : Nat) (fields : List Field) :
    c.incompatible i fields = d.incompatible i fields := by
  induction fields generalizing i with
  | nil => rfl
  | cons field fields ih =>
    unfold Cursor.incompatible
    rw [same.compatible, same.columnType, ih]

theorem coerceFields (i : Nat) (fields : List Field) :
    c.coerceFields i fields = d.coerceFields i fields := by
  induction fields generalizing i with
  | nil => rfl
  | cons field fields ih =>
    unfold Cursor.coerceFields
    rw [same.converted, ih]

theorem getRecord (fields : List Field) (reads : List HostType) :
    c.getRecord fields reads = d.getRecord fields reads := by
  unfold Cursor.getRecord
  rw [same.checkRow, same.columns, same.incompatible, same.coerceFields]

end SameColumns

/-- The cursor over the same rows, with other columns. -/
def withColumns (c : Cursor S) (columns : List Column) : Cursor S :=
  { c with source := { c.source with columns := columns } }

end Cursor

end SqlAccess
