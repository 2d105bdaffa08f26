import CqlSchema.Proofs.Entries
import CqlSchema.Proofs.Statement
import CqlSchema.Proofs.Statement.Separated
/-!
# What the key of a table tells

After its columns a statement names the partition key, in parentheses where it has several
columns, then the clustering columns, then those of them that have an order. Where columns are
named by identifiers these texts tell the three lists, and where no two columns share a name
the lists tell the role of every column.
-/

namespace CqlSchema

namespace Entries

/-- Entries of well-named ones that share their name are the same. -/
theorem WellNamed.eq_of_name_eq {α : Type} {entries : Entries α} (wellNamed : entries.WellNamed)
    {first second : String × α} (firstMember : first ∈ entries) (secondMember : second ∈ entries)
    (same : first.1 = second.1) : first = second :=
  List.inj_on_of_nodup_map wellNamed.distinct firstMember secondMember (congrArg Text.fold same)

end Entries

/-- An identifier can be told when it is joined to others. -/
theorem isItem_of_isIdentifier {text : String} (identifier : isIdentifier text = true) :
    IsItem text where
  nonempty := (isIdentifier_word identifier).1
  tight := isTight_of_not_mem (not_mem_of_isIdentifier identifier (by decide))

namespace Table

/-! ## Lists of key columns -/

/-- The partition key lists the columns with that role. -/
theorem mem_partitionKey_iff {table : Table} {name : String} :
    name ∈ table.partitionKey ↔
      ∃ entry ∈ table.columns, entry.2.role = .partition ∧ entry.1 = name := by
  simp only [partitionKey, List.mem_map, List.mem_filter, Column.isPartition_iff, and_assoc]

/-- The clustering key lists the columns with that role, with their orders. -/
theorem mem_clusteringKey_iff {table : Table} {name : String} {order : ClusteringOrder} :
    (name, order) ∈ table.clusteringKey ↔
      ∃ entry ∈ table.columns, entry.2.role = .clustering order ∧ entry.1 = name := by
  simp only [clusteringKey, List.mem_filterMap, Option.map_eq_some_iff, Prod.mk.injEq,
    Column.order?_eq_some_iff]
  constructor
  · rintro ⟨entry, member, found, role, named, rfl⟩
    exact ⟨entry, member, role, named⟩
  · rintro ⟨entry, member, role, named⟩
    exact ⟨entry, member, order, role, named, rfl⟩

/-- The texts of orders are those of the clustering columns that have one. -/
theorem mem_orderTexts_iff {table : Table} {text : String} :
    text ∈ table.orderTexts ↔
      ∃ entry ∈ table.clusteringKey, ∃ keyword, entry.2.keyword? = some keyword ∧
        entry.1 ++ " " ++ keyword = text := by
  simp only [orderTexts, List.mem_filterMap, Option.map_eq_some_iff]

/-- Tables whose columns are named by identifiers, with a partition key. -/
structure HasKey (table : Table) : Prop where
  /-- The columns are well named. -/
  wellNamed : table.columns.WellNamed
  /-- Some column is in the partition key. -/
  present : table.partitionKey ≠ []

/-- Columns of the partition key are named by identifiers. -/
theorem HasKey.isIdentifier_partition {table : Table} (hasKey : table.HasKey) {name : String}
    (member : name ∈ table.partitionKey) : isIdentifier name = true := by
  obtain ⟨entry, inColumns, -, rfl⟩ := mem_partitionKey_iff.1 member
  exact hasKey.wellNamed.identifiers entry inColumns

/-- Clustering columns are named by identifiers. -/
theorem HasKey.isIdentifier_clustering {table : Table} (hasKey : table.HasKey) {name : String}
    (member : name ∈ table.clusteringKey.map Prod.fst) : isIdentifier name = true := by
  obtain ⟨⟨same, order⟩, inKey, rfl⟩ := List.mem_map.1 member
  obtain ⟨entry, inColumns, -, rfl⟩ := mem_clusteringKey_iff.1 inKey
  exact hasKey.wellNamed.identifiers entry inColumns

/-! ## Text of the primary key -/

/-- The partition key is written as its only column, or in parentheses. -/
theorem HasKey.partitionText_cases {table : Table} (hasKey : table.HasKey) :
    (∃ name, table.partitionKey = [name] ∧ table.partitionText = name) ∨
      table.partitionText.toList =
        '(' :: ((commaSeparated table.partitionKey).toList ++ [')']) := by
  cases shape : table.partitionKey with
  | nil => exact absurd shape hasKey.present
  | cons name rest =>
    cases rest with
    | nil =>
      refine .inl ⟨name, rfl, ?_⟩
      simp [partitionText, shape, commaSeparated]
    | cons second rest =>
      refine .inr ?_
      simp [partitionText, shape]

/-- The text of a primary key ends in its later columns and a parenthesis. -/
theorem toList_primaryKeyText (table : Table) :
    table.primaryKeyText.toList = "PRIMARY KEY (".toList ++ (table.partitionText.toList ++
      (laterItems (table.clusteringKey.map Prod.fst) ++ [')'])) := by
  have closing : ")".toList = [')'] := rfl
  rw [primaryKeyText, String.toList_append, String.toList_append, toList_commaSeparated_cons,
    closing, List.append_assoc, List.append_assoc]

/-- No identifier starts with a parenthesis. -/
theorem append_ne_parenthesis {name : String} (identifier : isIdentifier name = true)
    (left right : List Char) : name.toList ++ left ≠ '(' :: right := by
  intro same
  obtain ⟨c, tail, shape⟩ := List.exists_cons_of_ne_nil (isIdentifier_word identifier).1
  have free : '(' ∉ name.toList := not_mem_of_isIdentifier identifier (by decide)
  rw [shape] at same free
  obtain rfl := (List.cons.inj same).1
  exact free List.mem_cons_self

/-- Joined identifiers are told by their text when a parenthesis follows them. -/
theorem identifiers_inj {names others : List String} {left right : List Char}
    (identifiers : ∀ name ∈ names, isIdentifier name = true)
    (otherIdentifiers : ∀ name ∈ others, isIdentifier name = true)
    (same : (commaSeparated names).toList ++ ')' :: left =
      (commaSeparated others).toList ++ ')' :: right) : names = others ∧ left = right := by
  have free : ∀ {texts : List String}, (∀ name ∈ texts, isIdentifier name = true) →
      ')' ∉ (commaSeparated texts).toList := by
    intro texts known
    refine not_mem_commaSeparated (fun name member => ?_) (by decide) (by decide)
    exact not_mem_of_isIdentifier (known name member) (by decide)
  obtain ⟨inside, rests⟩ := eq_of_append_mark (free identifiers) (free otherIdentifiers) same
  refine ⟨commaSeparated_inj ?_ ?_ (String.toList_inj.1 inside), rests⟩
  · exact fun name member => isItem_of_isIdentifier (identifiers name member)
  · exact fun name member => isItem_of_isIdentifier (otherIdentifiers name member)

/-- Later identifiers are told by their text when a parenthesis follows them. -/
theorem laterIdentifiers_inj {names others : List String} {left right : List Char}
    (identifiers : ∀ name ∈ names, isIdentifier name = true)
    (otherIdentifiers : ∀ name ∈ others, isIdentifier name = true)
    (same : laterItems names ++ ')' :: left = laterItems others ++ ')' :: right) :
    names = others ∧ left = right := by
  have free : ∀ {texts : List String}, (∀ name ∈ texts, isIdentifier name = true) →
      ')' ∉ laterItems texts := by
    intro texts known
    refine not_mem_laterItems (fun name member => ?_) (by decide) (by decide)
    exact not_mem_of_isIdentifier (known name member) (by decide)
  obtain ⟨inside, rests⟩ := eq_of_append_mark (free identifiers) (free otherIdentifiers) same
  refine ⟨laterItems_inj ?_ ?_ inside, rests⟩
  · exact fun name member => (isItem_of_isIdentifier (identifiers name member)).tight
  · exact fun name member => (isItem_of_isIdentifier (otherIdentifiers name member)).tight

/-- Primary keys are told by their text, whatever follows it. -/
theorem HasKey.primaryKey_inj {first second : Table} (firstKey : first.HasKey)
    (secondKey : second.HasKey) {left right : List Char}
    (same : first.primaryKeyText.toList ++ left = second.primaryKeyText.toList ++ right) :
    first.partitionKey = second.partitionKey ∧
      first.clusteringKey.map Prod.fst = second.clusteringKey.map Prod.fst ∧ left = right := by
  have clustering := @HasKey.isIdentifier_clustering _ firstKey
  have otherClustering := @HasKey.isIdentifier_clustering _ secondKey
  have partitions := @HasKey.isIdentifier_partition _ firstKey
  have otherPartitions := @HasKey.isIdentifier_partition _ secondKey
  simp only [toList_primaryKeyText, List.append_assoc, List.cons_append, List.nil_append] at same
  have key := List.append_cancel_left same
  rcases firstKey.partitionText_cases with ⟨name, only, text⟩ | text
  · have identifier : isIdentifier name = true := partitions (only ▸ List.mem_cons_self)
    rcases secondKey.partitionText_cases with ⟨other, otherOnly, otherText⟩ | otherText
    · -- One column each: it is joined to the clustering columns as one more name.
      have otherIdentifier : isIdentifier other = true :=
        otherPartitions (otherOnly ▸ List.mem_cons_self)
      rw [text, otherText, ← List.append_assoc, ← List.append_assoc, ← toList_commaSeparated_cons,
        ← toList_commaSeparated_cons] at key
      obtain ⟨names, rests⟩ := identifiers_inj
        (List.forall_mem_cons.2 ⟨identifier, fun name member => clustering member⟩)
        (List.forall_mem_cons.2 ⟨otherIdentifier, fun name member => otherClustering member⟩) key
      obtain ⟨rfl, sameClustering⟩ := List.cons.inj names
      exact ⟨only.trans otherOnly.symm, sameClustering, rests⟩
    · rw [text, otherText] at key
      exact absurd key (append_ne_parenthesis identifier _ _)
  · rcases secondKey.partitionText_cases with ⟨other, otherOnly, otherText⟩ | otherText
    · have otherIdentifier : isIdentifier other = true :=
        otherPartitions (otherOnly ▸ List.mem_cons_self)
      rw [text, otherText] at key
      exact absurd key.symm (append_ne_parenthesis otherIdentifier _ _)
    · -- Several columns each: the partition key ends at the first parenthesis that closes.
      rw [text, otherText] at key
      simp only [List.cons_append, List.append_assoc, List.nil_append, List.cons.injEq,
        true_and] at key
      obtain ⟨samePartition, after⟩ := identifiers_inj (fun name member => partitions member)
        (fun name member => otherPartitions member) key
      obtain ⟨sameClustering, rests⟩ := laterIdentifiers_inj
        (fun name member => clustering member) (fun name member => otherClustering member) after
      exact ⟨samePartition, sameClustering, rests⟩

/-! ## Text of the orders -/

/-- Keywords of orders hold no comma. -/
theorem not_mem_keyword {order : ClusteringOrder} {keyword : String}
    (found : order.keyword? = some keyword) : ',' ∉ keyword.toList := by
  cases order <;> cases found <;> decide

/-- The texts of orders can be told when they are joined. -/
theorem HasKey.isItem_order {table : Table} (hasKey : table.HasKey) {text : String}
    (member : text ∈ table.orderTexts) : IsItem text := by
  obtain ⟨⟨name, order⟩, inKey, keyword, found, rfl⟩ := mem_orderTexts_iff.1 member
  have item := isItem_of_isIdentifier
    (hasKey.isIdentifier_clustering (List.mem_map_of_mem inKey))
  have blank : IsTight " ".toList := isTight_of_not_mem (by decide)
  have last : IsTight keyword.toList := isTight_of_not_mem (not_mem_keyword found)
  refine ⟨?_, ?_⟩
  · simp
  · rw [String.toList_append, String.toList_append]
    exact (item.tight.append blank).append last

/-- The orders are told by the text of the clustering order, whether there is one or not. -/
theorem HasKey.orderTexts_inj {first second : Table} (firstKey : first.HasKey)
    (secondKey : second.HasKey)
    (same : first.orderText.toList ++ [';'] = second.orderText.toList ++ [';']) :
    first.orderTexts = second.orderTexts := by
  have texts : first.orderText = second.orderText :=
    String.toList_inj.1 (List.append_cancel_right same)
  -- A table without orders has an empty text, and no other table has.
  have written : ∀ table : Table, table.orderTexts ≠ [] →
      table.orderText =
        " WITH CLUSTERING ORDER BY (" ++ commaSeparated table.orderTexts ++ ")" := by
    intro table some
    rw [orderText, if_neg (by simpa using some)]
  have unwritten : ∀ table : Table, table.orderTexts = [] → table.orderText = "" := by
    intro table none
    rw [orderText, none]
    rfl
  have differ : ∀ inner : String, " WITH CLUSTERING ORDER BY (" ++ inner ++ ")" ≠ "" := by
    intro inner equal
    have letters := congrArg String.toList equal
    simp at letters
  by_cases firstNone : first.orderTexts = []
  · by_cases secondNone : second.orderTexts = []
    · rw [firstNone, secondNone]
    · rw [unwritten first firstNone, written second secondNone] at texts
      exact absurd texts.symm (differ _)
  · by_cases secondNone : second.orderTexts = []
    · rw [written first firstNone, unwritten second secondNone] at texts
      exact absurd texts (differ _)
    · rw [written first firstNone, written second secondNone] at texts
      have letters := congrArg String.toList texts
      simp only [String.toList_append] at letters
      have inside := List.append_cancel_left (List.append_cancel_right letters)
      exact commaSeparated_inj (fun text member => firstKey.isItem_order member)
        (fun text member => secondKey.isItem_order member) (String.toList_inj.1 inside)

/-! ## Roles -/

/-- An order of a clustering column is defined when the texts of orders show it. -/
theorem HasKey.keyword?_eq_some_iff {table : Table} (hasKey : table.HasKey) {name : String}
    {order : ClusteringOrder} (member : (name, order) ∈ table.clusteringKey) {keyword : String} :
    order.keyword? = some keyword ↔ name ++ " " ++ keyword ∈ table.orderTexts := by
  constructor
  · intro found
    exact mem_orderTexts_iff.2 ⟨(name, order), member, keyword, found, rfl⟩
  · intro inTexts
    obtain ⟨⟨other, otherOrder⟩, otherMember, shown, found, text⟩ := mem_orderTexts_iff.1 inTexts
    have free : ∀ {name : String} {order : ClusteringOrder},
        (name, order) ∈ table.clusteringKey → ' ' ∉ name.toList := by
      intro name order inKey
      exact not_mem_of_isIdentifier
        (hasKey.isIdentifier_clustering (List.mem_map_of_mem inKey)) (by decide)
    have letters := congrArg String.toList text
    have blank : " ".toList = [' '] := rfl
    simp only [String.toList_append, blank, List.append_assoc, List.cons_append,
      List.nil_append] at letters
    obtain ⟨sameName, sameKeyword⟩ := eq_of_append_mark (free otherMember) (free member) letters
    obtain rfl := String.toList_inj.1 sameName
    obtain rfl := String.toList_inj.1 sameKeyword
    -- Only one column has this name, so it is the one whose order is shown.
    obtain ⟨entry, inColumns, role, named⟩ := mem_clusteringKey_iff.1 member
    obtain ⟨shownEntry, shownInColumns, shownRole, shownNamed⟩ :=
      mem_clusteringKey_iff.1 otherMember
    obtain rfl := hasKey.wellNamed.eq_of_name_eq inColumns shownInColumns
      (named.trans shownNamed.symm)
    obtain rfl := Role.clustering.inj (role.symm.trans shownRole)
    exact found

/-- Orders are told by their keywords. -/
theorem keyword?_inj {order other : ClusteringOrder} (same : order.keyword? = other.keyword?) :
    order = other := by
  revert same
  cases order <;> cases other <;> decide

/-- Tables with the same key: the same columns in it, and the same texts of orders. -/
structure SameKey (first second : Table) : Prop where
  /-- The partition keys are the same. -/
  partition : first.partitionKey = second.partitionKey
  /-- The clustering columns are the same. -/
  clustering : first.clusteringKey.map Prod.fst = second.clusteringKey.map Prod.fst
  /-- The texts of orders are the same. -/
  orders : first.orderTexts = second.orderTexts

/-- Sameness of keys does not depend on which table is first. -/
theorem SameKey.symm {first second : Table} (same : first.SameKey second) :
    second.SameKey first :=
  ⟨same.partition.symm, same.clustering.symm, same.orders.symm⟩

/-- A column has its role also in a table with the same key. -/
theorem SameKey.role_of_role {first second : Table} (same : first.SameKey second)
    (firstKey : first.HasKey) (secondKey : second.HasKey) {entry other : String × Column}
    (member : entry ∈ first.columns) (otherMember : other ∈ second.columns)
    (named : entry.1 = other.1) (inKey : entry.2.role ≠ .regular) :
    other.2.role = entry.2.role := by
  cases role : entry.2.role with
  | partition =>
    have inPartition := mem_partitionKey_iff.2 ⟨entry, member, role, rfl⟩
    rw [same.partition, mem_partitionKey_iff] at inPartition
    obtain ⟨found, foundMember, foundRole, foundNamed⟩ := inPartition
    obtain rfl := secondKey.wellNamed.eq_of_name_eq foundMember otherMember
      (foundNamed.trans named)
    exact foundRole
  | clustering order =>
    have inClustering := mem_clusteringKey_iff.2 ⟨entry, member, role, rfl⟩
    have inNames := List.mem_map_of_mem (f := Prod.fst) inClustering
    rw [same.clustering, List.mem_map] at inNames
    obtain ⟨⟨name, otherOrder⟩, otherInClustering, sameName⟩ := inNames
    obtain rfl : name = entry.1 := sameName
    obtain ⟨found, foundMember, foundRole, foundNamed⟩ :=
      mem_clusteringKey_iff.1 otherInClustering
    obtain rfl := secondKey.wellNamed.eq_of_name_eq foundMember otherMember
      (foundNamed.trans named)
    have sameKeywords : otherOrder.keyword? = order.keyword? := by
      apply Option.ext
      intro keyword
      rw [secondKey.keyword?_eq_some_iff otherInClustering,
        firstKey.keyword?_eq_some_iff inClustering, same.orders]
    rw [foundRole, keyword?_inj sameKeywords]
  | regular => exact absurd role inKey

/-- The key tells the role of every column. -/
theorem SameKey.role_eq {first second : Table} (same : first.SameKey second)
    (firstKey : first.HasKey) (secondKey : second.HasKey) {entry other : String × Column}
    (member : entry ∈ first.columns) (otherMember : other ∈ second.columns)
    (named : entry.1 = other.1) : entry.2.role = other.2.role := by
  by_cases inKey : entry.2.role = .regular
  · by_cases otherInKey : other.2.role = .regular
    · rw [inKey, otherInKey]
    · exact same.symm.role_of_role secondKey firstKey otherMember member named.symm otherInKey
  · exact (same.role_of_role firstKey secondKey member otherMember named inKey).symm

end Table

end CqlSchema
