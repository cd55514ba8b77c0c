import FreightAP.Lib.Sql
import FreightAP.Models
import Mathlib.Data.List.Dedup

/-!
# The load-number migration

Revision `202607190003` brings the load numbers of `shipments` and
`rate_confirmations` into the form the services look them up by.  It refuses a
table with an empty number or with two numbers of one normal form, rewrites
the rest, and adds a check constraint to each table.

Both columns have a unique index, and PostgreSQL asks it row by row while an
`UPDATE` runs.  So the order in which the rows are visited is an argument here
(`VisitOrder`), and the index can refuse a visit.  It never does: `normalized_idem`
makes a number that is not visited yet but equal to a new one a collision that
was refused before.

The character classes, the upper-case mapping and the order of texts are those
of the database, the class `PgRuntime`.  They need not be Python's: where the
two normal forms agree on the numbers that are stored, the services find after
the migration the row that had a number of the form they ask for.
-/

namespace FreightAP.LoadNumbers

/-- The text functions of the database: `[[:space:]]`, `upper` of a character,
and the order `ORDER BY` puts texts in. -/
class PgRuntime where
  /-- The class `[[:space:]]`. -/
  space : Char → Bool
  /-- The upper-case mapping of a character. -/
  upperChar : Char → List Char
  /-- `a <= b` in the collation. -/
  collate : String → String → Bool
  upperChar_ne_nil : ∀ c, upperChar c ≠ []
  /-- No character becomes a blank. -/
  upperChar_space : ∀ c, space c = false → ∀ d ∈ upperChar c, space d = false
  /-- An upper-case text is its own upper case. -/
  upperChar_upper : ∀ c, (upperChar c).flatMap upperChar = upperChar c

variable [PgRuntime]

/-! ## Normal forms -/

/-- `NORMALIZED_LOAD_NUMBER_SQL`. -/
def normalizedLoadNumber (loadNumber : String) : String :=
  String.ofList ((Sql.trim PgRuntime.space loadNumber.toList).flatMap PgRuntime.upperChar)

/-- The normal form of a normal form is itself. -/
theorem normalized_idem (s : String) :
    normalizedLoadNumber (normalizedLoadNumber s) = normalizedLoadNumber s := by
  have hbare : Sql.Bare PgRuntime.space
      ((Sql.trim PgRuntime.space s.toList).flatMap PgRuntime.upperChar) :=
    Sql.trim_bare.flatMap PgRuntime.upperChar_ne_nil PgRuntime.upperChar_space
  rw [normalizedLoadNumber, normalizedLoadNumber, String.toList_ofList, Sql.trim_of_bare hbare,
    List.flatMap_assoc]
  simp only [PgRuntime.upperChar_upper]

/-! ## The statements on one table -/

/-- An error that ends the migration and rolls it back. -/
inductive LoadNumberError where
  /-- A `RuntimeError` of the migration. -/
  | runtime (message : String)
  /-- An `IntegrityError` of a unique index. -/
  | unique (index : String)
  /-- An `IntegrityError` of a check constraint. -/
  | check (constraint : String)
deriving DecidableEq

/-- A table with a load number: its name, its unique index, its check
constraint, its primary key and the column. -/
structure LoadTable (ρ : Type) where
  tableName : String
  index : String
  constraint : String
  id : ρ → Uuid
  loadNumber : ρ → String
  setLoadNumber : ρ → String → ρ
  id_set : ∀ r s, id (setLoadNumber r s) = id r
  loadNumber_set : ∀ r s, loadNumber (setLoadNumber r s) = s
  set_loadNumber : ∀ r, setLoadNumber r (loadNumber r) = r

/-- `shipments`. -/
def shipmentTable : LoadTable Shipment where
  tableName := "shipments"
  index := "ix_shipments_load_number"
  constraint := "ck_shipments_load_number_normalized"
  id := Shipment.id
  loadNumber := Shipment.loadNumber
  setLoadNumber s n := { s with loadNumber := n }
  id_set _ _ := rfl
  loadNumber_set _ _ := rfl
  set_loadNumber _ := rfl

/-- `rate_confirmations`. -/
def rateConfirmationTable : LoadTable RateConfirmation where
  tableName := "rate_confirmations"
  index := "ix_rate_confirmations_load_number"
  constraint := "ck_rate_confirmations_load_number_normalized"
  id := RateConfirmation.id
  loadNumber := RateConfirmation.loadNumber
  setLoadNumber rc n := { rc with loadNumber := n }
  id_set _ _ := rfl
  loadNumber_set _ _ := rfl
  set_loadNumber _ := rfl

section

variable {ρ : Type} (table : LoadTable ρ)

/-- A row with its number in normal form. -/
def LoadTable.normalize (row : ρ) : ρ :=
  table.setLoadNumber row (normalizedLoadNumber (table.loadNumber row))

/-- The normal forms that more than one row has, in order. -/
def LoadTable.collisions (rows : List ρ) : List String :=
  let numbers := rows.map fun row => normalizedLoadNumber (table.loadNumber row)
  (numbers.dedup.filter fun n => 1 < numbers.count n).mergeSort PgRuntime.collate

/-- The message `_reject_invalid_load_numbers` raises, `none` when it returns. -/
def LoadTable.rejectInvalidLoadNumbers (rows : List ρ) : Option String :=
  let emptyCount := rows.countP fun row => normalizedLoadNumber (table.loadNumber row) = ""
  if emptyCount ≠ 0 then
    some ("Cannot normalize " ++ table.tableName ++ ".load_number: " ++ toString emptyCount ++
      " empty value(s)")
  else
    let collisions := ", ".intercalate (table.collisions rows)
    if collisions ≠ "" then
      some ("Cannot normalize " ++ table.tableName ++ ".load_number; collisions: " ++ collisions)
    else none

/-- One round of the loop of `upgrade`: the checks, then the `UPDATE`, whose
`WHERE` leaves the rows out that are normal already. -/
def LoadTable.upgrade (order : List Uuid) (rows : List ρ) : Except LoadNumberError (List ρ) :=
  match table.rejectInvalidLoadNumbers rows with
  | some message => .error (.runtime message)
  | none =>
      Sql.updateRows table.id table.loadNumber
        (fun row => table.loadNumber row ≠ normalizedLoadNumber (table.loadNumber row))
        table.normalize (.unique table.index) order rows

/-- The condition of the check constraint. -/
def LoadTable.normal (row : ρ) : Bool :=
  table.loadNumber row = normalizedLoadNumber (table.loadNumber row) ∧ table.loadNumber row ≠ ""

/-- `create_check_constraint`. -/
def LoadTable.createCheckConstraint (rows : List ρ) : Except LoadNumberError Unit :=
  Sql.check (.check table.constraint) table.normal rows

end

/-- The orders in which the two `UPDATE`s visit the rows. -/
structure VisitOrder where
  shipments : List Uuid
  rateConfirmations : List Uuid

/-- `upgrade`. -/
def upgrade (order : VisitOrder) (db : Database) : Except LoadNumberError Database := do
  let shipments ← shipmentTable.upgrade order.shipments db.shipments
  let rateConfirmations ←
    rateConfirmationTable.upgrade order.rateConfirmations db.rateConfirmations
  shipmentTable.createCheckConstraint shipments
  rateConfirmationTable.createCheckConstraint rateConfirmations
  pure { db with shipments := shipments, rateConfirmations := rateConfirmations }

/-! ## What is refused -/

section

variable {ρ : Type} {table : LoadTable ρ} {rows : List ρ}

/-- No number is empty in normal form, and no two are the same. -/
structure LoadTable.Normalizable (table : LoadTable ρ) (rows : List ρ) : Prop where
  nonempty : ∀ r ∈ rows, normalizedLoadNumber (table.loadNumber r) ≠ ""
  distinct : Table.Keyed (fun r => normalizedLoadNumber (table.loadNumber r)) rows

theorem LoadTable.mem_collisions {n : String} :
    n ∈ table.collisions rows ↔
      1 < (rows.map fun r => normalizedLoadNumber (table.loadNumber r)).count n := by
  rw [LoadTable.collisions, List.mem_mergeSort, List.mem_filter, List.mem_dedup, decide_eq_true_iff]
  constructor
  · intro h
    exact h.2
  · intro h
    exact ⟨List.count_pos_iff.mp (by omega), h⟩

theorem LoadTable.collisions_eq_nil_iff : table.collisions rows = [] ↔
    Table.Keyed (fun r => normalizedLoadNumber (table.loadNumber r)) rows := by
  rw [Table.Keyed, List.nodup_iff_count_le_one, List.eq_nil_iff_forall_not_mem]
  simp only [LoadTable.mem_collisions, not_lt]

omit [PgRuntime] in
/-- A joined list of texts is empty when there is none of them. -/
theorem intercalate_eq_empty_iff {texts : List String} (h : ∀ s ∈ texts, s ≠ "") :
    ", ".intercalate texts = "" ↔ texts = [] := by
  match texts with
  | [] => simp
  | [s] => simp [h s]
  | s :: t :: rest =>
      rw [String.intercalate_cons_cons]
      simp [h s]

/-- The checks of one table pass exactly when it can be normalized. -/
theorem LoadTable.rejectInvalidLoadNumbers_eq_none_iff :
    table.rejectInvalidLoadNumbers rows = none ↔ table.Normalizable rows := by
  have hempty : (rows.countP fun r => normalizedLoadNumber (table.loadNumber r) = "") = 0 ↔
      ∀ r ∈ rows, normalizedLoadNumber (table.loadNumber r) ≠ "" := by
    simp [List.countP_eq_zero]
  simp only [LoadTable.rejectInvalidLoadNumbers]
  split
  case isTrue hsome =>
      constructor
      · intro h
        cases h
      · intro h
        exact absurd (hempty.mpr h.nonempty) hsome
  case isFalse hnone =>
      have hnonempty := hempty.mp (not_not.mp hnone)
      have htexts : ∀ n ∈ table.collisions rows, n ≠ "" := by
        intro n hn
        have hpos := LoadTable.mem_collisions.mp hn
        have hmem := List.count_pos_iff.mp (Nat.lt_trans Nat.zero_lt_one hpos)
        obtain ⟨r, hr, rfl⟩ := List.mem_map.mp hmem
        exact hnonempty r hr
      split
      case isTrue hsome =>
          constructor
          · intro h
            cases h
          · intro h
            have hnil := LoadTable.collisions_eq_nil_iff.mpr h.distinct
            exact absurd ((intercalate_eq_empty_iff htexts).mpr hnil) hsome
      case isFalse hnone' =>
          have hnil := (intercalate_eq_empty_iff htexts).mp (not_not.mp hnone')
          exact ⟨fun _ => ⟨hnonempty, LoadTable.collisions_eq_nil_iff.mp hnil⟩, fun _ => rfl⟩

/-! ## One table -/

@[simp] theorem LoadTable.loadNumber_normalize (row : ρ) :
    table.loadNumber (table.normalize row) = normalizedLoadNumber (table.loadNumber row) :=
  table.loadNumber_set ..

/-- A row in normal form is not changed, whether the `WHERE` leaves it out or not. -/
theorem LoadTable.updated_eq (row : ρ) :
    Sql.updated
      (fun row => table.loadNumber row ≠ normalizedLoadNumber (table.loadNumber row))
      table.normalize row = table.normalize row := by
  rw [Sql.updated]
  split
  case isTrue => rfl
  case isFalse hsame =>
      have hnumber : table.loadNumber row = normalizedLoadNumber (table.loadNumber row) := by
        simpa using hsame
      rw [LoadTable.normalize, ← hnumber, table.set_loadNumber]

/-- A number equal to a new one, of a row that is not visited yet, would have
been a collision: the index is never in the way. -/
theorem LoadTable.Normalizable.writable (h : table.Normalizable rows)
    (hids : Table.Keyed table.id rows) :
    Sql.Writable table.id table.loadNumber
      (Sql.updated (fun row => table.loadNumber row ≠ normalizedLoadNumber (table.loadNumber row))
        table.normalize) rows where
  ids := hids
  keeps r _ := by rw [LoadTable.updated_eq, LoadTable.normalize, table.id_set]
  stays r _ s _ hkey := by
    rw [LoadTable.updated_eq, LoadTable.loadNumber_normalize] at hkey ⊢
    rw [LoadTable.updated_eq, LoadTable.loadNumber_normalize, hkey, normalized_idem]
  keys := by
    simp only [LoadTable.updated_eq, LoadTable.loadNumber_normalize]
    exact h.distinct

/-- A table that can be normalized is, in whichever order its rows are visited. -/
theorem LoadTable.upgrade_eq_map (h : table.Normalizable rows) (hids : Table.Keyed table.id rows)
    {order : List Uuid} (horder : order.Perm (rows.map table.id)) :
    table.upgrade order rows = .ok (rows.map table.normalize) := by
  rw [LoadTable.upgrade, LoadTable.rejectInvalidLoadNumbers_eq_none_iff.mpr h]
  show Sql.updateRows _ _ _ _ _ _ _ = _
  rw [Sql.updateRows_eq_map (h.writable hids) horder]
  congr 1
  exact List.map_congr_left fun r _ => LoadTable.updated_eq r

/-- The rows that were rewritten meet the constraint. -/
theorem LoadTable.Normalizable.createCheckConstraint (h : table.Normalizable rows) :
    table.createCheckConstraint (rows.map table.normalize) = .ok () := by
  apply Sql.check_eq_ok
  intro row hrow
  obtain ⟨r, hr, rfl⟩ := List.mem_map.mp hrow
  simp [LoadTable.normal, normalized_idem, h.nonempty r hr]

/-- A table whose numbers are in normal form is its own normal form. -/
theorem LoadTable.map_normalize
    (h : ∀ r ∈ rows, table.loadNumber r = normalizedLoadNumber (table.loadNumber r)) :
    rows.map table.normalize = rows := by
  conv_rhs => rw [← List.map_id rows]
  refine List.map_congr_left fun r hr => ?_
  rw [LoadTable.normalize, ← h r hr, table.set_loadNumber]
  rfl

/-- What a look-up by number finds in a table that was normalized. -/
theorem LoadTable.Normalizable.get?_map_normalize (h : table.Normalizable rows) {n : String}
    {r : ρ} : Table.get? table.loadNumber n (rows.map table.normalize) = some r ↔
      ∃ r₀ ∈ rows, normalizedLoadNumber (table.loadNumber r₀) = n ∧
        r = table.setLoadNumber r₀ n := by
  have hkeyed : Table.Keyed table.loadNumber (rows.map table.normalize) := by
    have hmap : (rows.map table.normalize).map table.loadNumber =
        rows.map fun r => normalizedLoadNumber (table.loadNumber r) := by
      rw [List.map_map]
      exact List.map_congr_left fun r _ => LoadTable.loadNumber_normalize r
    rw [Table.Keyed, hmap]
    exact h.distinct
  constructor
  · intro hget
    obtain ⟨r₀, hr₀, rfl⟩ := List.mem_map.mp (Table.get?_some_mem hget)
    have hn := Table.get?_some_key hget
    rw [LoadTable.loadNumber_normalize] at hn
    exact ⟨r₀, hr₀, hn, hn ▸ rfl⟩
  · rintro ⟨r₀, hr₀, rfl, rfl⟩
    have hfound := Table.get?_of_mem hkeyed (List.mem_map_of_mem hr₀ (f := table.normalize))
    rwa [LoadTable.loadNumber_normalize] at hfound

end

/-! ## The migration -/

/-- The message the migration stops with: that of the first table that cannot be
normalized. -/
def rejected (db : Database) : Option String :=
  shipmentTable.rejectInvalidLoadNumbers db.shipments <|>
    rateConfirmationTable.rejectInvalidLoadNumbers db.rateConfirmations

/-- The database with all load numbers in normal form. -/
def normalizedTables (db : Database) : Database where
  __ := db
  shipments := db.shipments.map shipmentTable.normalize
  rateConfirmations := db.rateConfirmations.map rateConfirmationTable.normalize

omit [PgRuntime] in
/-- The primary keys of the two tables. -/
structure PrimaryKeys (db : Database) : Prop where
  shipments : Table.Keyed Shipment.id db.shipments
  rateConfirmations : Table.Keyed RateConfirmation.id db.rateConfirmations

omit [PgRuntime] in
/-- The two statements visit all rows, each once. -/
structure VisitOrder.Visits (order : VisitOrder) (db : Database) : Prop where
  shipments : order.shipments.Perm (db.shipments.map Shipment.id)
  rateConfirmations : order.rateConfirmations.Perm (db.rateConfirmations.map RateConfirmation.id)

/-- Both tables can be normalized. -/
def Normalizable (db : Database) : Prop :=
  shipmentTable.Normalizable db.shipments ∧
    rateConfirmationTable.Normalizable db.rateConfirmations

theorem rejected_eq_none_iff {db : Database} : rejected db = none ↔ Normalizable db := by
  rw [rejected, Option.orElse_eq_none, Normalizable,
    LoadTable.rejectInvalidLoadNumbers_eq_none_iff, LoadTable.rejectInvalidLoadNumbers_eq_none_iff]

theorem upgrade_of_normalizable {order : VisitOrder} {db : Database} (h : Normalizable db)
    (hkeys : PrimaryKeys db) (horder : order.Visits db) :
    upgrade order db = .ok (normalizedTables db) := by
  have hs : shipmentTable.upgrade order.shipments db.shipments =
      .ok (db.shipments.map shipmentTable.normalize) :=
    LoadTable.upgrade_eq_map h.1 hkeys.shipments horder.shipments
  have hrc : rateConfirmationTable.upgrade order.rateConfirmations db.rateConfirmations =
      .ok (db.rateConfirmations.map rateConfirmationTable.normalize) :=
    LoadTable.upgrade_eq_map h.2 hkeys.rateConfirmations horder.rateConfirmations
  simp only [upgrade, hs, hrc, bind, Except.bind, h.1.createCheckConstraint,
    h.2.createCheckConstraint]
  rfl

theorem LoadTable.upgrade_of_rejected {ρ : Type} {table : LoadTable ρ} {rows : List ρ}
    {message : String} (h : table.rejectInvalidLoadNumbers rows = some message)
    (order : List Uuid) : table.upgrade order rows = .error (.runtime message) := by
  rw [LoadTable.upgrade, h]

theorem upgrade_of_rejected {order : VisitOrder} {db : Database} {message : String}
    (h : rejected db = some message) (hkeys : PrimaryKeys db) (horder : order.Visits db) :
    upgrade order db = .error (.runtime message) := by
  cases hs : shipmentTable.rejectInvalidLoadNumbers db.shipments with
  | some first =>
      have hmessage : first = message := by simpa [rejected, hs] using h
      rw [← hmessage, upgrade, LoadTable.upgrade_of_rejected hs]
      rfl
  | none =>
      have hrc : rateConfirmationTable.rejectInvalidLoadNumbers db.rateConfirmations =
          some message := by simpa [rejected, hs] using h
      have hshipments : shipmentTable.upgrade order.shipments db.shipments =
          .ok (db.shipments.map shipmentTable.normalize) :=
        LoadTable.upgrade_eq_map (LoadTable.rejectInvalidLoadNumbers_eq_none_iff.mp hs)
          hkeys.shipments horder.shipments
      rw [upgrade, hshipments, LoadTable.upgrade_of_rejected hrc]
      rfl

theorem LoadTable.Normalizable.map_normalize {ρ : Type} {table : LoadTable ρ} {rows : List ρ}
    (h : table.Normalizable rows) : table.Normalizable (rows.map table.normalize) where
  nonempty r hr := by
    obtain ⟨r₀, hr₀, rfl⟩ := List.mem_map.mp hr
    rw [LoadTable.loadNumber_normalize, normalized_idem]
    exact h.nonempty r₀ hr₀
  distinct := by
    rw [Table.Keyed, List.map_map]
    have hnumbers : (fun r => normalizedLoadNumber (table.loadNumber r)) ∘ table.normalize =
        fun r => normalizedLoadNumber (table.loadNumber r) := by
      funext r
      rw [Function.comp_apply, LoadTable.loadNumber_normalize, normalized_idem]
    rw [hnumbers]
    exact h.distinct

theorem Normalizable.normalizedTables {db : Database} (h : Normalizable db) :
    Normalizable (normalizedTables db) := ⟨h.1.map_normalize, h.2.map_normalize⟩

/-- What went through is its own normal form. -/
theorem normalizedTables_idem (db : Database) :
    normalizedTables (normalizedTables db) = normalizedTables db := by
  have hrows : ∀ {ρ : Type} (table : LoadTable ρ) (rows : List ρ),
      (rows.map table.normalize).map table.normalize = rows.map table.normalize := by
    intro ρ table rows
    apply LoadTable.map_normalize
    intro r hr
    obtain ⟨r₀, _, rfl⟩ := List.mem_map.mp hr
    rw [LoadTable.loadNumber_normalize, normalized_idem]
  simp only [LoadNumbers.normalizedTables, hrows]

theorem PrimaryKeys.normalizedTables {db : Database} (h : PrimaryKeys db) :
    PrimaryKeys (normalizedTables db) := by
  have hids : ∀ {ρ : Type} (table : LoadTable ρ) (rows : List ρ), Table.Keyed table.id rows →
      Table.Keyed table.id (rows.map table.normalize) := by
    intro ρ table rows hkeyed
    have hmap : (rows.map table.normalize).map table.id = rows.map table.id := by
      rw [List.map_map]
      exact List.map_congr_left fun r _ => table.id_set ..
    rw [Table.Keyed, hmap]
    exact hkeyed
  exact ⟨hids shipmentTable _ h.shipments, hids rateConfirmationTable _ h.rateConfirmations⟩

theorem of_upgrade {order : VisitOrder} {db db' : Database} (hkeys : PrimaryKeys db)
    (horder : order.Visits db) (h : upgrade order db = .ok db') :
    Normalizable db ∧ db' = normalizedTables db := by
  cases hrejected : rejected db with
  | some message =>
      rw [upgrade_of_rejected hrejected hkeys horder] at h
      cases h
  | none =>
      have hnormal := rejected_eq_none_iff.mp hrejected
      rw [upgrade_of_normalizable hnormal hkeys horder] at h
      cases h
      exact ⟨hnormal, rfl⟩

/-- The migration stops with the message of the first table it refuses, and
otherwise puts all numbers in normal form.  No unique index and no check
constraint stops it, in whichever order the rows are visited.  Where it went
through it goes through again and changes nothing.  (Between the two runs stands
a downgrade, which drops the constraints and nothing else: PostgreSQL does not
add a constraint that is there.) -/
theorem upgrade_exact {order : VisitOrder} {db : Database} (hkeys : PrimaryKeys db)
    (horder : order.Visits db) :
    upgrade order db =
        (match rejected db with
          | some message => .error (.runtime message)
          | none => .ok (normalizedTables db)) ∧
      (rejected db = none ↔ Normalizable db) ∧
      ∀ db', upgrade order db = .ok db' →
        ∀ order' : VisitOrder, order'.Visits db' → upgrade order' db' = .ok db' := by
  have hexact : upgrade order db =
      (match rejected db with
        | some message => .error (.runtime message)
        | none => .ok (normalizedTables db)) := by
    cases h : rejected db with
    | some message => exact upgrade_of_rejected h hkeys horder
    | none => exact upgrade_of_normalizable (rejected_eq_none_iff.mp h) hkeys horder
  refine ⟨hexact, rejected_eq_none_iff, ?_⟩
  intro db' hdb' order' horder'
  obtain ⟨hnormal, rfl⟩ := of_upgrade hkeys horder hdb'
  rw [upgrade_of_normalizable hnormal.normalizedTables hkeys.normalizedTables horder',
    normalizedTables_idem]

omit [PgRuntime] in
/-- A letter is left alone or becomes an upper-case one. -/
theorem toUpper_eq_or_isUpper (c : Char) : c.toUpper = c ∨ c.toUpper.isUpper = true := by
  delta Char.toUpper Char.isUpper
  split
  · right
    simp_all
    grind
  · left
    rfl

omit [PgRuntime] in
theorem toUpper_of_isUpper {c : Char} (h : c.isUpper = true) : c.toUpper = c := by
  delta Char.toUpper
  delta Char.isUpper at h
  split
  · simp_all
    grind
  · rfl

/-- The text functions of a database in the `C` locale. -/
@[reducible] def asciiPg : PgRuntime where
  space c := c ∈ [' ', '\t', '\n', '\r']
  upperChar c := [c.toUpper]
  collate a b := a ≤ b
  upperChar_ne_nil c := List.cons_ne_nil c.toUpper []
  upperChar_space c hc d hd := by
    rw [List.mem_singleton] at hd
    subst hd
    rcases toUpper_eq_or_isUpper c with hsame | hupper
    · rwa [hsame]
    · have hblanks : ∀ b ∈ [' ', '\t', '\n', '\r'], b.isUpper = false := by
        simp only [List.forall_mem_cons]
        exact ⟨rfl, rfl, rfl, rfl, by simp⟩
      rw [decide_eq_false_iff_not]
      intro hblank
      rw [hblanks _ hblank] at hupper
      cases hupper
  upperChar_upper c := by
    rcases toUpper_eq_or_isUpper c with hsame | hupper
    · simp [hsame]
    · simp [toUpper_of_isUpper hupper]

/-- Two shipments and a manual rate confirmation, stored as they were typed. -/
def typedNumbers : Database where
  __ := Database.empty
  shipments := [.new "s1" "  ld-001 " 0, .new "s2" "LD-002" 0]
  rateConfirmations := [⟨"r1", "ld-001\t", "Acme", "A", "B", 900, "USD", 20000⟩]

/-- An order that visits the second shipment first. -/
def secondFirst : VisitOrder := ⟨["s2", "s1"], ["r1"]⟩

omit [PgRuntime] in
theorem typedNumbers_keys : PrimaryKeys typedNumbers :=
  ⟨(by decide : ["s1", "s2"].Nodup), (by decide : ["r1"].Nodup)⟩

omit [PgRuntime] in
theorem secondFirst_visits : secondFirst.Visits typedNumbers := ⟨by decide, by decide⟩

omit [PgRuntime] in
theorem typedNumbers_normalizable : letI := asciiPg; Normalizable typedNumbers := by
  have hnone : @rejected asciiPg typedNumbers = none := by decide +kernel
  exact (@rejected_eq_none_iff asciiPg _).mp hnone

omit [PgRuntime] in
/-- The numbers as they were typed are put in normal form. -/
theorem upgrade_exact_typed : letI := asciiPg
    upgrade secondFirst typedNumbers = .ok (normalizedTables typedNumbers) ∧
      (normalizedTables typedNumbers).shipments.map Shipment.loadNumber = ["LD-001", "LD-002"] := by
  have hexact := @upgrade_exact asciiPg _ _ typedNumbers_keys secondFirst_visits
  rw [hexact.2.1.mpr typedNumbers_normalizable] at hexact
  exact ⟨hexact.1, by decide +kernel⟩

/-- The services' normal form of a number is the database's. -/
def Agrees [PyRuntime] (loadNumber : String) : Prop :=
  normalizeLoadNumber (some loadNumber) =
    if normalizedLoadNumber loadNumber = "" then .error "load_number cannot be empty"
    else .ok (some (normalizedLoadNumber loadNumber))

instance [PyRuntime] (loadNumber : String) : Decidable (Agrees loadNumber) :=
  inferInstanceAs (Decidable (_ = _))

theorem Agrees.normalize_eq_iff [PyRuntime] {s n : String} (h : Agrees s)
    (hne : normalizedLoadNumber s ≠ "") :
    normalizeLoadNumber (some s) = .ok (some n) ↔ normalizedLoadNumber s = n := by
  rw [h, if_neg hne]
  simp

/-- Where the normal form of the services is that of the database on the stored
numbers, a look-up after the migration finds the row whose number had that
normal form before it, with nothing else changed. -/
theorem lookup_upgraded [PyRuntime] {order : VisitOrder} {db db' : Database}
    (hkeys : PrimaryKeys db) (horder : order.Visits db)
    (hshipments : ∀ s ∈ db.shipments, Agrees s.loadNumber)
    (hrates : ∀ rc ∈ db.rateConfirmations, Agrees rc.loadNumber)
    (h : upgrade order db = .ok db') (n : String) :
    (∀ s, db'.shipment? n = some s ↔
      ∃ s₀ ∈ db.shipments, normalizeLoadNumber (some s₀.loadNumber) = .ok (some n) ∧
        s = { s₀ with loadNumber := n }) ∧
    ∀ rc, db'.rateConfirmation? n = some rc ↔
      ∃ rc₀ ∈ db.rateConfirmations, normalizeLoadNumber (some rc₀.loadNumber) = .ok (some n) ∧
        rc = { rc₀ with loadNumber := n } := by
  obtain ⟨hnormal, rfl⟩ := of_upgrade hkeys horder h
  constructor
  · intro s
    have hfind := hnormal.1.get?_map_normalize (n := n) (r := s)
    refine hfind.trans ⟨?_, ?_⟩
    · rintro ⟨s₀, hs₀, hn, hs⟩
      exact ⟨s₀, hs₀, ((hshipments s₀ hs₀).normalize_eq_iff (hnormal.1.nonempty s₀ hs₀)).mpr hn, hs⟩
    · rintro ⟨s₀, hs₀, hn, hs⟩
      exact ⟨s₀, hs₀, ((hshipments s₀ hs₀).normalize_eq_iff (hnormal.1.nonempty s₀ hs₀)).mp hn, hs⟩
  · intro rc
    have hfind := hnormal.2.get?_map_normalize (n := n) (r := rc)
    refine hfind.trans ⟨?_, ?_⟩
    · rintro ⟨rc₀, hrc₀, hn, hrc⟩
      exact ⟨rc₀, hrc₀, ((hrates rc₀ hrc₀).normalize_eq_iff (hnormal.2.nonempty rc₀ hrc₀)).mpr hn, hrc⟩
    · rintro ⟨rc₀, hrc₀, hn, hrc⟩
      exact ⟨rc₀, hrc₀, ((hrates rc₀ hrc₀).normalize_eq_iff (hnormal.2.nonempty rc₀ hrc₀)).mp hn, hrc⟩

omit [PgRuntime] in
/-- Both rows of a load are found under its normal form. -/
theorem lookup_upgraded_typed : letI := asciiPg
    (∃ s, (normalizedTables typedNumbers).shipment? "LD-001" = some s) ∧
      ∃ rc, (normalizedTables typedNumbers).rateConfirmation? "LD-001" = some rc := by
  have hok := @upgrade_of_normalizable asciiPg _ _ typedNumbers_normalizable typedNumbers_keys
    secondFirst_visits
  have hfound := @lookup_upgraded asciiPg asciiRuntime _ _ _ typedNumbers_keys secondFirst_visits
    (by decide +kernel) (by decide +kernel) hok "LD-001"
  constructor
  · exact ⟨_, (hfound.1 _).mpr ⟨.new "s1" "  ld-001 " 0, by decide, by decide +kernel, rfl⟩⟩
  · exact ⟨_, (hfound.2 _).mpr ⟨⟨"r1", "ld-001\t", "Acme", "A", "B", 900, "USD", 20000⟩,
      by decide, by decide +kernel, rfl⟩⟩

end FreightAP.LoadNumbers
