import CqlSchema.Proofs.Document.Acceptance
/-!
# Which descriptions are columns

The description of a column passes six checks, one after the other. `Fails` says of every check on
its own when a description fails it and with which error, whatever the other checks say; a column is
refused with the error of the first check that fails. A description that fails none is legal, and
then its column has the type, the role, the order and the static flag that it gives.
-/

namespace CqlSchema

open Outcome

namespace ColumnDetail

/-! ## Checks -/

/-- Checks of a description. -/
inductive Check where
  | fields
  | type
  | signature
  | order
  | role
  | placement
  deriving Repr, DecidableEq

/-- Checks in the order in which they are made. -/
def Check.inOrder : List Check :=
  [.fields, .type, .signature, .order, .role, .placement]

/-- A description of a column fails a check with an error. -/
inductive Fails (types : TypeRegistry) (table name : String) (detail : ColumnDetail) :
    Check → SchemaError → Prop where
  | unknownField {field : String} {rest : List String} :
      detail.unknown = field :: rest →
      Fails types table name detail .fields (.invalidColumn table name (.unknownField field))
  | missingType :
      detail.type = none →
      Fails types table name detail .type (.invalidColumn table name .missingType)
  | unreadable {text : String} {error : SchemaError} :
      detail.type = some text → types.parse text = .error error →
      Fails types table name detail .signature error
  | unknownOrder {word : String} :
      detail.order = some word → Text.sameFolded word "asc" = false →
      Text.sameFolded word "desc" = false →
      Fails types table name detail .order (.invalidColumn table name (.unknownOrder word))
  | staticPartition :
      detail.key = some "partition" → detail.isStatic = some true →
      Fails types table name detail .role (.invalidColumn table name .staticPartition)
  | unknownKey {word : String} :
      detail.key = some word → word ∉ ["partition", "clustering", "regular"] →
      Fails types table name detail .role (.invalidColumn table name (.unknownKey word))
  | misplacedOrder {word : String} :
      detail.order = some word → detail.key ≠ some "clustering" →
      Fails types table name detail .placement (.invalidColumn table name .misplacedOrder)

/-- Descriptions of columns that are accepted over given types. -/
structure Legal (types : TypeRegistry) (detail : ColumnDetail) : Prop where
  /-- No key is unknown. -/
  fields : detail.unknown = []
  /-- There is a type, and its text can be read. -/
  type : ∃ text type, detail.type = some text ∧ types.parse text = .ok type
  /-- An order is `asc` or `desc`, in any case. -/
  order : ∀ word, detail.order = some word →
    Text.sameFolded word "asc" = true ∨ Text.sameFolded word "desc" = true
  /-- A key is one of three words. -/
  key : ∀ word, detail.key = some word → word ∈ ["partition", "clustering", "regular"]
  /-- The partition key is not static. -/
  partition : detail.key = some "partition" → detail.isStatic ≠ some true
  /-- Only clustering columns have an order. -/
  placement : detail.order ≠ none → detail.key = some "clustering"

/-- Order that a word stands for; no word stands for no order. -/
inductive GivesOrder : Option String → ClusteringOrder → Prop where
  | undefined : GivesOrder none .undefined
  | ascending {word : String} :
      Text.sameFolded word "asc" = true → GivesOrder (some word) .ascending
  | descending {word : String} :
      Text.sameFolded word "desc" = true → GivesOrder (some word) .descending

/-- Role that a description gives, with its order. -/
inductive GivesRole (detail : ColumnDetail) : Role → Prop where
  | partition : detail.key = some "partition" → GivesRole detail .partition
  | clustering {order : ClusteringOrder} :
      detail.key = some "clustering" → GivesOrder detail.order order →
      GivesRole detail (.clustering order)
  | regular : detail.key = none ∨ detail.key = some "regular" → GivesRole detail .regular

/-- A column is as a description gives it. -/
structure Gives (types : TypeRegistry) (detail : ColumnDetail) (column : Column) : Prop where
  /-- The type is read from the text. -/
  type : ∃ text, detail.type = some text ∧ types.parse text = .ok column.type
  /-- The role is that of the key; without a key it is that of a regular column. -/
  role : detail.GivesRole column.role
  /-- The column is static when the description says so. -/
  static : column.isStatic = true ↔ detail.isStatic = some true
  /-- No column of the partition key is static. -/
  partition : column.isPartition = true → column.isStatic = false

variable {types : TypeRegistry} {table name : String} {detail : ColumnDetail}

/-- A check fails with one error only. -/
theorem Fails.unique {check : Check} {error other : SchemaError}
    (fails : detail.Fails types table name check error)
    (failsOther : detail.Fails types table name check other) : error = other := by
  cases fails <;> cases failsOther <;> simp_all

/-- A legal description is one that fails no check. -/
theorem legal_iff (types : TypeRegistry) (table name : String) (detail : ColumnDetail) :
    detail.Legal types ↔ ∀ check error, ¬ detail.Fails types table name check error := by
  constructor
  · rintro legal check error fails
    obtain ⟨text, type, given, read⟩ := legal.type
    cases fails with
    | unknownField unknown => simp [legal.fields] at unknown
    | missingType missing => simp [given] at missing
    | unreadable written failed =>
      rw [given] at written
      cases written
      rw [read] at failed
      cases failed
    | unknownOrder given notAsc notDesc =>
      rcases legal.order _ given with asc | desc
      · simp [asc] at notAsc
      · simp [desc] at notDesc
    | staticPartition key static => exact legal.partition key static
    | unknownKey given unknown => exact unknown (legal.key _ given)
    | misplacedOrder given misplaced => exact misplaced (legal.placement (by simp [given]))
  · intro clean
    refine ⟨?_, ?_, fun word given => ?_, fun word given => ?_, fun key static => ?_,
      fun given => ?_⟩
    · cases unknown : detail.unknown with
      | nil => rfl
      | cons field rest => exact absurd (.unknownField unknown) (clean _ _)
    · cases given : detail.type with
      | none => exact absurd (.missingType given) (clean _ _)
      | some text =>
        cases read : types.parse text with
        | error error => exact absurd (.unreadable given read) (clean _ _)
        | ok type => exact ⟨text, type, rfl, read⟩
    · by_contra neither
      rw [not_or, Bool.not_eq_true, Bool.not_eq_true] at neither
      exact clean _ _ (.unknownOrder given neither.1 neither.2)
    · by_contra unknown
      exact clean _ _ (.unknownKey given unknown)
    · exact clean _ _ (.staticPartition key static)
    · by_contra misplaced
      obtain ⟨word, written⟩ := Option.ne_none_iff_exists'.1 given
      exact clean _ _ (.misplacedOrder written misplaced)

/-! ## Single steps -/

/-- A text is given when no key is unknown and there is a type. -/
theorem signature_eq_ok {text : String} :
    detail.signature = .ok text ↔ detail.unknown = [] ∧ detail.type = some text := by
  unfold signature
  split <;> simp_all

/-- No text is given when a key is unknown, or else the type is missing. -/
theorem signature_eq_error {fault : ColumnFault} :
    detail.signature = .error fault ↔
      (∃ field rest, detail.unknown = field :: rest ∧ fault = .unknownField field) ∨
      (detail.unknown = [] ∧ detail.type = none ∧ fault = .missingType) := by
  unfold signature
  split <;> simp_all [eq_comm]

/-- A known word gives its order, and no word gives an undefined one. -/
theorem clusteringOrder_eq_ok {order : ClusteringOrder}
    (given : detail.clusteringOrder = .ok order) : GivesOrder detail.order order := by
  unfold clusteringOrder at given
  split at given
  · rename_i absent
    cases given
    rw [absent]
    exact .undefined
  · rename_i word written
    split at given
    · rename_i known
      cases given
      rw [written]
      unfold ClusteringOrder.ofWord? at known
      split at known
      · rename_i asc
        cases known
        exact .ascending asc
      · split at known
        · rename_i desc
          cases known
          exact .descending desc
        · cases known
    · cases given

/-- Any other word fails the check of the order. -/
theorem fails_of_clusteringOrder {fault : ColumnFault}
    (failed : detail.clusteringOrder = .error fault) :
    detail.Fails types table name .order (.invalidColumn table name fault) := by
  unfold clusteringOrder at failed
  split at failed
  · cases failed
  · rename_i word written
    split at failed
    · cases failed
    · rename_i unknown
      cases failed
      unfold ClusteringOrder.ofWord? at unknown
      split at unknown
      · cases unknown
      · rename_i notAsc
        split at unknown
        · cases unknown
        · rename_i notDesc
          exact .unknownOrder written (Bool.eq_false_iff.2 notAsc) (Bool.eq_false_iff.2 notDesc)

/-- A column is made with the role of its key. -/
theorem column_eq_ok {type : DataType} {order : ClusteringOrder} {column : Column}
    (made : detail.column type order = .ok column) :
    (detail.key = some "partition" ∧ detail.isStatic ≠ some true ∧ column = .partition type) ∨
      (detail.key = some "clustering" ∧ column = .clustering type order) ∨
      ((detail.key = none ∨ detail.key = some "regular") ∧ column = .regular type) := by
  unfold ColumnDetail.column at made
  cases key : detail.key with
  | none =>
    rw [key] at made
    cases made
    exact .inr (.inr ⟨.inl rfl, rfl⟩)
  | some word =>
    rw [key, Option.getD_some] at made
    dsimp only at made
    split at made
    · rename_i partition
      split at made
      · cases made
      · rename_i loose
        cases made
        exact .inl ⟨by rw [partition], loose, rfl⟩
    · split at made
      · rename_i clustering
        cases made
        exact .inr (.inl ⟨by rw [clustering], rfl⟩)
      · split at made
        · rename_i regular
          cases made
          exact .inr (.inr ⟨.inr (by rw [regular]), rfl⟩)
        · cases made

/-- No column is made when the check of the role fails. -/
theorem fails_of_column {type : DataType} {order : ClusteringOrder} {fault : ColumnFault}
    (failed : detail.column type order = .error fault) :
    detail.Fails types table name .role (.invalidColumn table name fault) := by
  unfold ColumnDetail.column at failed
  cases key : detail.key with
  | none =>
    rw [key] at failed
    cases failed
  | some word =>
    rw [key, Option.getD_some] at failed
    dsimp only at failed
    split at failed
    · rename_i partition
      split at failed
      · rename_i static
        cases failed
        exact .staticPartition (by rw [key, partition]) static
      · cases failed
    · rename_i notPartition
      split at failed
      · cases failed
      · rename_i notClustering
        split at failed
        · cases failed
        · rename_i notRegular
          cases failed
          refine .unknownKey key ?_
          simp only [List.mem_cons, List.not_mem_nil, or_false, not_or]
          exact ⟨notPartition, notClustering, notRegular⟩

/-- A column is finished when it has an order, a role, and the one where the other allows it. -/
theorem finish_eq_ok {type : DataType} {column : Column}
    (finished : detail.finish type = .ok column) :
    ∃ order made, detail.clusteringOrder = .ok order ∧ detail.column type order = .ok made ∧
      (order.isDefined && !made.isClustering) = false ∧
      column = made.withStatic (detail.isStatic.getD false) := by
  obtain ⟨order, given, remaining⟩ := bind_eq_ok.1 finished
  obtain ⟨made, columnMade, done⟩ := bind_eq_ok.1 remaining
  split at done
  · cases done
  · rename_i placed
    cases done
    exact ⟨order, made, given, columnMade, Bool.eq_false_iff.2 placed, rfl⟩

/-- A column is refused for its order, or else its role, or else the order beside the role. -/
theorem finish_eq_error {type : DataType} {fault : ColumnFault}
    (failed : detail.finish type = .error fault) :
    detail.clusteringOrder = .error fault ∨ ∃ order, detail.clusteringOrder = .ok order ∧
      (detail.column type order = .error fault ∨ ∃ made, detail.column type order = .ok made ∧
        order.isDefined = true ∧ made.isClustering = false ∧ fault = .misplacedOrder) := by
  rcases bind_eq_error.1 failed with unknown | ⟨order, given, remaining⟩
  · exact .inl unknown
  · refine .inr ⟨order, given, ?_⟩
    rcases bind_eq_error.1 remaining with refused | ⟨made, columnMade, done⟩
    · exact .inl refused
    · split at done
      · rename_i misplaced
        rw [Bool.and_eq_true, Bool.not_eq_true'] at misplaced
        cases done
        exact .inr ⟨made, columnMade, misplaced.1, misplaced.2, rfl⟩
      · cases done

/-- An order is defined exactly when a word gives it. -/
theorem GivesOrder.isDefined_iff {written : Option String} {order : ClusteringOrder}
    (gives : GivesOrder written order) : order.isDefined = true ↔ written ≠ none := by
  cases gives <;> simp [ClusteringOrder.isDefined]

/-- A column has the clustering role exactly when its key says so. -/
theorem isClustering_of_column {type : DataType} {order : ClusteringOrder} {column : Column}
    (made : detail.column type order = .ok column) :
    column.isClustering = true ↔ detail.key = some "clustering" := by
  rcases column_eq_ok made with ⟨key, -, rfl⟩ | ⟨key, rfl⟩ | ⟨key | key, rfl⟩ <;>
    simp [key, Column.partition, Column.clustering, Column.regular, Column.isClustering]

/-- A finished column gives no reason for the checks behind the text to fail. -/
theorem legal_of_finish {text : String} {type : DataType} {column : Column}
    (given : detail.signature = .ok text) (read : types.parse text = .ok type)
    (finished : detail.finish type = .ok column) : detail.Legal types := by
  obtain ⟨fields, written⟩ := signature_eq_ok.1 given
  obtain ⟨order, made, ordered, columnMade, placed, -⟩ := finish_eq_ok finished
  have givesOrder := clusteringOrder_eq_ok ordered
  refine ⟨fields, ⟨text, type, written, read⟩, fun word present => ?_, fun word present => ?_,
    fun partition static => ?_, fun present => ?_⟩
  · rw [present] at givesOrder
    cases givesOrder with
    | ascending asc => exact .inl asc
    | descending desc => exact .inr desc
  · rcases column_eq_ok columnMade with ⟨key, -⟩ | ⟨key, -⟩ | ⟨key | key, -⟩ <;>
      simp_all
  · rcases column_eq_ok columnMade with ⟨-, loose, -⟩ | ⟨key, -⟩ | ⟨key | key, -⟩ <;>
      simp_all
  · have defined := givesOrder.isDefined_iff.2 present
    rw [defined, Bool.true_and, Bool.not_eq_false'] at placed
    exact (isClustering_of_column columnMade).1 placed

/-- A finished column is as its description gives it. -/
theorem gives_of_finish {text : String} {type : DataType} {column : Column}
    (given : detail.signature = .ok text) (read : types.parse text = .ok type)
    (finished : detail.finish type = .ok column) : detail.Gives types column := by
  obtain ⟨-, written⟩ := signature_eq_ok.1 given
  obtain ⟨order, made, ordered, columnMade, -, rfl⟩ := finish_eq_ok finished
  have static : detail.isStatic.getD false = true ↔ detail.isStatic = some true := by
    rcases detail.isStatic with _ | _ | _ <;> simp
  rcases column_eq_ok columnMade with ⟨key, loose, rfl⟩ | ⟨key, rfl⟩ | ⟨key, rfl⟩
  · refine ⟨⟨text, written, read⟩, .partition key, ?_, ?_⟩
    · simp [Column.withStatic, Column.partition, Column.isPartition, loose]
    · exact fun _ => Column.isStatic_withStatic_partition _ _
  · refine ⟨⟨text, written, read⟩, .clustering key (clusteringOrder_eq_ok ordered), ?_, ?_⟩
    · simpa [Column.withStatic, Column.clustering, Column.isPartition] using static
    · simp [Column.withStatic, Column.clustering, Column.isPartition]
  · refine ⟨⟨text, written, read⟩, .regular key, ?_, ?_⟩
    · simpa [Column.withStatic, Column.regular, Column.isPartition] using static
    · simp [Column.withStatic, Column.regular, Column.isPartition]

/-! ## Checks in order -/

/-- Of the checks that a description fails the first one fails with an error. -/
def FailsFirst (types : TypeRegistry) (table name : String) (detail : ColumnDetail)
    (error : SchemaError) : Prop :=
  ∃ check after,
    IsFirst (fun check => ∃ error, detail.Fails types table name check error)
      Check.inOrder check after ∧
    detail.Fails types table name check error

/-- A check that fails is the first to fail when none of those before it does. -/
theorem Fails.failsFirst {check : Check} {error : SchemaError}
    (fails : detail.Fails types table name check error) (before : List Check)
    {after : List Check} (split : Check.inOrder = before ++ check :: after)
    (clean : ∀ earlier ∈ before, ∀ error, ¬ detail.Fails types table name earlier error) :
    detail.FailsFirst types table name error :=
  ⟨check, after, ⟨before, split, ⟨error, fails⟩,
    fun earlier member ⟨other, failsEarlier⟩ => clean earlier member other failsEarlier⟩, fails⟩

/-- One error only is that of the first check that fails. -/
theorem FailsFirst.unique {error other : SchemaError}
    (first : detail.FailsFirst types table name error)
    (otherFirst : detail.FailsFirst types table name other) : error = other := by
  obtain ⟨check, after, isFirst, fails⟩ := first
  obtain ⟨otherCheck, otherAfter, otherIsFirst, otherFails⟩ := otherFirst
  obtain rfl := isFirst.unique otherIsFirst
  exact fails.unique otherFails

/-- Known keys pass the check of the keys. -/
theorem not_fails_fields (known : detail.unknown = []) (error : SchemaError) :
    ¬ detail.Fails types table name .fields error := by
  rintro ⟨unknown⟩
  simp [known] at unknown

/-- A given text passes the check of its presence. -/
theorem not_fails_type {text : String} (given : detail.type = some text) (error : SchemaError) :
    ¬ detail.Fails types table name .type error := by
  intro fails
  cases fails with
  | missingType missing => simp [given] at missing

/-- A text that is read passes the check of the text. -/
theorem not_fails_signature {text : String} {type : DataType} (given : detail.type = some text)
    (read : types.parse text = .ok type) (error : SchemaError) :
    ¬ detail.Fails types table name .signature error := by
  intro fails
  cases fails with
  | unreadable written failed =>
    rw [given] at written
    cases written
    rw [read] at failed
    cases failed

/-- A text that is given and read passes the checks in front of the order. -/
theorem not_fails_of_signature {text : String} {type : DataType}
    (given : detail.signature = .ok text) (read : types.parse text = .ok type) :
    ∀ earlier ∈ [Check.fields, .type, .signature], ∀ error,
      ¬ detail.Fails types table name earlier error := by
  obtain ⟨known, written⟩ := signature_eq_ok.1 given
  simp only [List.forall_mem_cons, List.not_mem_nil, false_implies, implies_true, and_true]
  exact ⟨not_fails_fields known, not_fails_type written, not_fails_signature written read⟩

/-- A word that gives an order passes the check of the order. -/
theorem not_fails_order {order : ClusteringOrder} (gives : GivesOrder detail.order order)
    (error : SchemaError) : ¬ detail.Fails types table name .order error := by
  intro fails
  cases fails with
  | unknownOrder given notAsc notDesc =>
    rw [given] at gives
    cases gives with
    | ascending asc => simp [asc] at notAsc
    | descending desc => simp [desc] at notDesc

/-- A column that is made passes the check of the role. -/
theorem not_fails_role {type : DataType} {order : ClusteringOrder} {column : Column}
    (made : detail.column type order = .ok column) (error : SchemaError) :
    ¬ detail.Fails types table name .role error := by
  intro fails
  rcases column_eq_ok made with ⟨key, loose, -⟩ | ⟨key, -⟩ | ⟨key | key, -⟩ <;>
    cases fails <;> simp_all

/-- A column that cannot be finished is refused by the first check that fails. -/
theorem failsFirst_of_finish {text : String} {type : DataType} {fault : ColumnFault}
    (given : detail.signature = .ok text) (read : types.parse text = .ok type)
    (failed : detail.finish type = .error fault) :
    detail.FailsFirst types table name (.invalidColumn table name fault) := by
  have front : ∀ earlier ∈ [Check.fields, .type, .signature], ∀ error,
      ¬ detail.Fails types table name earlier error := not_fails_of_signature given read
  rcases finish_eq_error failed with unknown | ⟨order, given, later⟩
  · exact (fails_of_clusteringOrder unknown).failsFirst [.fields, .type, .signature] rfl front
  · have gives := clusteringOrder_eq_ok given
    have withOrder : ∀ earlier ∈ [Check.fields, .type, .signature] ++ [.order], ∀ error,
        ¬ detail.Fails types table name earlier error :=
      List.forall_mem_append.2 ⟨front, List.forall_mem_singleton.2 (not_fails_order gives)⟩
    rcases later with refused | ⟨made, columnMade, defined, notClustering, rfl⟩
    · exact (fails_of_column refused).failsFirst _ rfl withOrder
    · have withRole : ∀ earlier ∈ [Check.fields, .type, .signature] ++ [.order] ++ [.role],
          ∀ error, ¬ detail.Fails types table name earlier error :=
        List.forall_mem_append.2
          ⟨withOrder, List.forall_mem_singleton.2 (not_fails_role columnMade)⟩
      obtain ⟨word, present⟩ := Option.ne_none_iff_exists'.1 (gives.isDefined_iff.1 defined)
      refine Fails.failsFirst (.misplacedOrder present fun key => ?_) _ rfl withRole
      rw [(isClustering_of_column columnMade).2 key] at notClustering
      cases notClustering

end ColumnDetail

namespace Catalog

open ColumnDetail

variable {catalog : Catalog} {table name : String} {entry : ColumnEntry}

/-- A column is converted when its text is given and read, and it is finished. -/
theorem column_eq_ok {column : Column} :
    catalog.column table name entry = .ok column ↔
      ∃ text type, entry.toDetail.signature = .ok text ∧ catalog.types.parse text = .ok type ∧
        entry.toDetail.finish type = .ok column := by
  constructor
  · intro converted
    obtain ⟨text, given, remaining⟩ := bind_eq_ok.1 converted
    obtain ⟨type, read, described⟩ := bind_eq_ok.1 remaining
    exact ⟨text, type, mapError_eq_ok.1 given, read, mapError_eq_ok.1 described⟩
  · rintro ⟨text, type, given, read, finished⟩
    refine bind_eq_ok.2 ⟨text, mapError_eq_ok.2 given, bind_eq_ok.2 ⟨type, read, ?_⟩⟩
    exact mapError_eq_ok.2 finished

/-- A column that is not converted is refused by the first check that fails. -/
theorem failsFirst_of_column {error : SchemaError}
    (failed : catalog.column table name entry = .error error) :
    entry.toDetail.FailsFirst catalog.types table name error := by
  rcases bind_eq_error.1 failed with refused | ⟨text, textGiven, remaining⟩
  · obtain ⟨fault, notGiven, rfl⟩ := mapError_eq_error.1 refused
    rcases signature_eq_error.1 notGiven with ⟨field, rest, unknown, rfl⟩ | ⟨known, missing, rfl⟩
    · exact Fails.failsFirst (.unknownField unknown) [] rfl (List.forall_mem_nil _)
    · exact Fails.failsFirst (.missingType missing) [.fields] rfl
        (List.forall_mem_singleton.2 (not_fails_fields known))
  · have given := mapError_eq_ok.1 textGiven
    obtain ⟨known, written⟩ := signature_eq_ok.1 given
    rcases bind_eq_error.1 remaining with unread | ⟨type, read, refused⟩
    · refine Fails.failsFirst (.unreadable written unread) [.fields, .type] rfl ?_
      exact List.forall_mem_cons.2 ⟨not_fails_fields known,
        List.forall_mem_singleton.2 (not_fails_type written)⟩
    · obtain ⟨fault, notFinished, rfl⟩ := mapError_eq_error.1 refused
      exact failsFirst_of_finish given read notFinished

/-- A column is converted exactly when its description is legal, and then it is as the description
gives it. Otherwise the first check that fails is reported, and every error but that of a text that
cannot be read names the table and the column. -/
theorem column_of_description (catalog : Catalog) (table name : String) (entry : ColumnEntry) :
    ((∃ column, catalog.column table name entry = .ok column) ↔
      entry.toDetail.Legal catalog.types) ∧
    (∀ column, catalog.column table name entry = .ok column →
      entry.toDetail.Gives catalog.types column) ∧
    (∀ error, catalog.column table name entry = .error error ↔
      entry.toDetail.FailsFirst catalog.types table name error) ∧
    (∀ error, catalog.column table name entry = .error error →
      (∃ fault, error = .invalidColumn table name fault) ∨
        ∃ text, entry.toDetail.type = some text ∧ catalog.types.parse text = .error error) := by
  have legal : ∀ column, catalog.column table name entry = .ok column →
      entry.toDetail.Legal catalog.types := by
    intro column converted
    obtain ⟨text, type, given, read, finished⟩ := column_eq_ok.1 converted
    exact legal_of_finish given read finished
  have clean : ∀ error, entry.toDetail.Legal catalog.types →
      ¬ entry.toDetail.FailsFirst catalog.types table name error := by
    rintro error allowed ⟨check, after, -, fails⟩
    exact (legal_iff _ _ _ _).1 allowed check error fails
  refine ⟨⟨fun ⟨column, converted⟩ => legal column converted, fun allowed => ?_⟩, ?_, ?_, ?_⟩
  · cases outcome : catalog.column table name entry with
    | ok column => exact ⟨column, rfl⟩
    | error error => exact absurd (failsFirst_of_column outcome) (clean error allowed)
  · intro column converted
    obtain ⟨text, type, given, read, finished⟩ := column_eq_ok.1 converted
    exact gives_of_finish given read finished
  · intro error
    refine ⟨failsFirst_of_column, fun first => ?_⟩
    cases outcome : catalog.column table name entry with
    | ok column => exact absurd first (clean error (legal column outcome))
    | error other => rw [(failsFirst_of_column outcome).unique first]
  · intro error failed
    obtain ⟨check, after, -, fails⟩ := failsFirst_of_column failed
    cases fails with
    | unreadable written unread => exact .inr ⟨_, written, unread⟩
    | _ => exact .inl ⟨_, rfl⟩

/-- A description with an unknown order, which is reported before its static partition key, and one
of a static clustering column. -/
theorem column_of_two_descriptions :
    let refused : ColumnDetail := ⟨some "int", some "partition", some "down", some true, []⟩
    let accepted : ColumnDetail := ⟨some "int", some "clustering", some "DESC", some true, []⟩
    empty.column "readings" "at" (.detail refused) =
        .error (.invalidColumn "readings" "at" (.unknownOrder "down")) ∧
      ∃ column, empty.column "readings" "at" (.detail accepted) = .ok column ∧
        accepted.Gives empty.types column := by
  intro refused accepted
  have read : empty.types.parse "int" = .ok (.scalar false .int) := by decide +kernel
  obtain ⟨-, -, errorIff, -⟩ :=
    column_of_description empty "readings" "at" (.detail refused)
  obtain ⟨okIff, gives, -, -⟩ :=
    column_of_description empty "readings" "at" (.detail accepted)
  constructor
  · have order : refused.Fails empty.types "readings" "at" .order
        (.invalidColumn "readings" "at" (.unknownOrder "down")) :=
      .unknownOrder rfl (by decide) (by decide)
    exact (errorIff _).2
      (order.failsFirst [.fields, .type, .signature] rfl (not_fails_of_signature rfl read))
  · have legal : accepted.Legal empty.types := by
      refine ⟨rfl, ⟨"int", _, rfl, read⟩, ?_, ?_, fun key => absurd key (by decide), fun _ => rfl⟩
      · rintro word ⟨⟩
        exact .inr (by decide)
      · rintro word ⟨⟩
        decide
    obtain ⟨column, converted⟩ := okIff.2 legal
    exact ⟨column, converted, gives column converted⟩

end Catalog

end CqlSchema
