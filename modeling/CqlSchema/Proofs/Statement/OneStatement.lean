import CqlSchema.Proofs.Statement.Balance
import CqlSchema.Proofs.Statement.Recovery
/-!
# Texts that hold one statement

A keyspace and the names in a catalog are identifiers, and whatever else a plan writes is written by
the plan itself. So every text of a plan is one statement and cannot hold another: its characters
are harmless, its only semicolon ends it, and all that it opens it closes.
-/

namespace CqlSchema

/-- Marks of a statement, apart from the underscore of names. -/
def statementMarks : List Char :=
  [' ', '.', ',', '(', ')', '<', '>', ';']

/-- A text that holds one statement and nothing else. -/
structure OneStatement (text : String) : Prop where
  /-- Every character is an ASCII letter, a digit, the underscore or one of the marks. -/
  allowed : ∀ c ∈ text.toList, isWordChar c = true ∨ c ∈ statementMarks
  /-- There is one semicolon. -/
  single : text.toList.count ';' = 1
  /-- The text ends in a semicolon. -/
  ended : text.toList.getLast? = some ';'
  /-- Parentheses are balanced. -/
  parentheses : Balanced '(' ')' text.toList
  /-- Angle brackets are balanced. -/
  brackets : Balanced '<' '>' text.toList

/-- A fragment becomes a statement when a semicolon ends it. -/
theorem Fragment.oneStatement {text : String} (fragment : Fragment text) :
    OneStatement (text ++ ";") := by
  have shape : (text ++ ";").toList = text.toList ++ [';'] := by simp
  have free : ';' ∉ text.toList := by
    intro member
    rcases fragment.allowed ';' member with word | mark
    · revert word
      decide
    · revert mark
      decide
  refine ⟨fun c member => ?_, ?_, ?_, ?_, ?_⟩
  · rw [shape, List.mem_append, List.mem_singleton] at member
    rcases member with inside | rfl
    · exact (fragment.allowed c inside).imp_right fun mark => List.mem_append_left [';'] mark
    · exact .inr (by decide)
  · rw [shape, List.count_append, List.count_eq_zero.2 free]
    rfl
  · rw [shape]
    exact List.getLast?_concat
  · rw [shape]
    exact fragment.parentheses.append (.of_not_mem (by decide) (by decide))
  · rw [shape]
    exact fragment.brackets.append (.of_not_mem (by decide) (by decide))

/-- No statement holds a line break. -/
theorem OneStatement.not_mem_newline {text : String} (statement : OneStatement text) :
    '\n' ∉ text.toList := by
  intro member
  rcases statement.allowed '\n' member with word | mark
  · revert word
    decide
  · revert mark
    decide

/-! ## Types -/

/-- The definition of a column is a fragment. -/
theorem Column.Named.fragment_definition {entry : String × Column} (named : Column.Named entry) :
    Fragment (entry.2.definition entry.1) := by
  have name : Fragment entry.1 := .of_isIdentifier named.name
  have blank : Fragment " " := .of_plain (by decide)
  have flag : Fragment " static" := .of_plain (by decide)
  have plain := (name.append blank).append (DataType.fragment_signature named.type)
  unfold Column.definition
  split
  · exact plain.append flag
  · exact plain

/-- The definition of a legible type is a fragment. -/
theorem UserType.Legible.fragment_definition {type : UserType} (legible : type.Legible)
    (named : isIdentifier type.name = true) : Fragment type.definition := by
  have name : Fragment type.name := .of_isIdentifier named
  have fields : Fragment (commaSeparated (type.fields.map fieldText)) := by
    refine .commaSeparated fun text member => ?_
    obtain ⟨field, inside, rfl⟩ := List.mem_map.1 member
    rw [fieldText_eq_definition]
    exact (legible.named inside).fragment_definition
  have whole := name.append fields.parenthesized
  rw [← String.append_assoc, ← String.append_assoc] at whole
  exact whole

/-- The first words of a statement, its keyspace and the full stop after it are a fragment. -/
theorem fragment_opening {opening keyspace : String} (plain : Fragment opening)
    (valid : isIdentifier keyspace = true) : Fragment (opening ++ keyspace ++ ".") := by
  have stop : Fragment "." := .of_plain (by decide)
  exact (plain.append (.of_isIdentifier valid)).append stop

/-- The statement for a legible type is one statement. -/
theorem UserType.Legible.oneStatement {type : UserType} (legible : type.Legible)
    (named : isIdentifier type.name = true) {keyspace : String}
    (valid : isIdentifier keyspace = true) :
    OneStatement (Statement.createType keyspace type).text := by
  have opening : Fragment ("CREATE TYPE IF NOT EXISTS " ++ keyspace ++ ".") :=
    fragment_opening (.of_plain (by decide)) valid
  exact (opening.append (legible.fragment_definition named)).oneStatement

/-! ## Tables -/

namespace Table

variable {table : Table}

/-- The partition key is written as a fragment. -/
theorem HasKey.fragment_partitionText (hasKey : table.HasKey) : Fragment table.partitionText := by
  have columns : Fragment (commaSeparated table.partitionKey) :=
    .commaSeparated fun name member => .of_isIdentifier (hasKey.isIdentifier_partition member)
  unfold partitionText
  dsimp only
  split
  · exact columns.parenthesized
  · exact columns

/-- The primary key is written as a fragment. -/
theorem HasKey.fragment_primaryKeyText (hasKey : table.HasKey) : Fragment table.primaryKeyText := by
  have words : Fragment "PRIMARY KEY " := .of_plain (by decide)
  have columns : Fragment
      (commaSeparated (table.partitionText :: table.clusteringKey.map Prod.fst)) := by
    refine .commaSeparated fun text member => ?_
    rcases List.mem_cons.1 member with rfl | clustering
    · exact hasKey.fragment_partitionText
    · exact .of_isIdentifier (hasKey.isIdentifier_clustering clustering)
  have whole := words.append columns.parenthesized
  rw [← String.append_assoc] at whole
  exact whole

/-- The clustering order is written as a fragment, whether there is one or not. -/
theorem HasKey.fragment_orderText (hasKey : table.HasKey) : Fragment table.orderText := by
  have words : Fragment " WITH CLUSTERING ORDER BY " := .of_plain (by decide)
  have orders : Fragment (commaSeparated table.orderTexts) := by
    refine .commaSeparated fun text member => ?_
    obtain ⟨⟨name, order⟩, inKey, keyword, found, rfl⟩ := mem_orderTexts_iff.1 member
    have column : Fragment name :=
      .of_isIdentifier (hasKey.isIdentifier_clustering (List.mem_map_of_mem inKey))
    have blank : Fragment " " := .of_plain (by decide)
    have word : Fragment keyword := .of_plain (by cases order <;> cases found <;> decide)
    exact (column.append blank).append word
  unfold orderText
  split
  · exact .of_plain (by decide)
  · have whole := words.append orders.parenthesized
    rw [← String.append_assoc] at whole
    exact whole

/-- The statement for a legible table is one statement. -/
theorem Legible.oneStatement (legible : table.Legible) (named : isIdentifier table.name = true)
    {keyspace : String} (valid : isIdentifier keyspace = true) :
    OneStatement (Statement.createTable keyspace table).text := by
  have opening : Fragment ("CREATE TABLE IF NOT EXISTS " ++ keyspace ++ ".") :=
    fragment_opening (.of_plain (by decide)) valid
  have name : Fragment table.name := .of_isIdentifier named
  have columns : Fragment (commaSeparated table.columnTexts) := by
    refine .commaSeparated fun text member => ?_
    obtain ⟨entry, inColumns, rfl⟩ := List.mem_map.1 member
    exact (legible.named inColumns).fragment_definition
  have blank : Fragment " " := .of_plain (by decide)
  have closing : ") " = ")" ++ " " := rfl
  have whole := ((((opening.append name).append columns.parenthesized).append blank).append
    legible.hasKey.fragment_primaryKeyText).append legible.hasKey.fragment_orderText
  have written : (Statement.createTable keyspace table).text =
      "CREATE TABLE IF NOT EXISTS " ++ keyspace ++ "." ++ table.name ++
        ("(" ++ commaSeparated table.columnTexts ++ ")") ++ " " ++ table.primaryKeyText ++
        table.orderText ++ ";" := by
    have plain : (Statement.createTable keyspace table).text =
        "CREATE TABLE IF NOT EXISTS " ++ keyspace ++ "." ++ table.name ++ "(" ++
          commaSeparated table.columnTexts ++ ") " ++ table.primaryKeyText ++ table.orderText ++
          ";" := rfl
    simp only [plain, closing, String.append_assoc]
  rw [written]
  exact whole.oneStatement

end Table

/-! ## Plans -/

/-- Every text of a plan of a well-formed catalog is one statement. -/
theorem Catalog.WellFormed.oneStatement {catalog : Catalog} (laws : catalog.WellFormed)
    {keyspace : String} {plan : Plan} (planned : catalog.plan keyspace = .ok plan) :
    ∀ text ∈ plan.statements, OneStatement text := by
  obtain ⟨valid, clean, needed, found, rfl⟩ := Catalog.plan_eq_ok.1 planned
  intro text member
  rcases List.mem_append.1 member with inTypes | inTables
  · obtain ⟨type, isNeeded, rfl⟩ := List.mem_map.1 inTypes
    have declared := (TypeRegistry.sublist_of_needed found).subset isNeeded
    exact (laws.legible_type declared).oneStatement (laws.types.identifiers type declared) valid
  · obtain ⟨table, declared, rfl⟩ := List.mem_map.1 inTables
    exact (laws.legible_table declared (clean table declared)).oneStatement
      (laws.tables.identifiers table declared) valid

end CqlSchema
