import CqlSchema.Proofs.CommandLine.Planning
import CqlSchema.Proofs.Plan.Refusal
import CqlSchema.Proofs.Statement.OneStatement
/-!
# Lines of a script

A script is written one statement a line. No statement of a plan holds a line break or a second
semicolon, whatever was offered as a name or as a type, so the script can be taken apart at its line
breaks, and what comes out is the list of statements.
-/

namespace CqlSchema.CommandLine

/-- One more item is joined to those that are joined already. -/
theorem intercalate_concat {separator last : List Char} {items : List (List Char)}
    (nonempty : items ≠ []) :
    separator.intercalate (items ++ [last]) = separator.intercalate items ++ separator ++ last := by
  induction items with
  | nil => exact absurd rfl nonempty
  | cons item rest ih =>
    cases rest with
    | nil => simp [List.intercalate_cons_cons]
    | cons next rest =>
      have others := ih (List.cons_ne_nil _ _)
      rw [List.cons_append] at others
      rw [List.cons_append, List.cons_append, List.intercalate_cons_cons, others,
        List.intercalate_cons_cons]
      simp only [List.append_assoc]

/-- A script is its statements and an empty rest, joined by line breaks. -/
theorem toList_script {plan : Plan} (nonempty : plan.statements ≠ []) :
    (script plan).toList = ['\n'].intercalate (plan.statements.map String.toList ++ [[]]) := by
  have newline : "\n".toList = ['\n'] := rfl
  have items : plan.statements.map String.toList ≠ [] :=
    fun none => nonempty (List.map_eq_nil_iff.1 none)
  rw [intercalate_concat items, script, String.toList_append, String.toList_intercalate, newline,
    List.append_nil]

/-- Taken apart at its line breaks, a script gives its statements and an empty rest. -/
theorem splitOn_script {plan : Plan} (isFull : plan.isEmpty = false)
    (lines : ∀ text ∈ plan.statements, OneStatement text) :
    (script plan).toList.splitOn '\n' = plan.statements.map String.toList ++ [[]] := by
  have nonempty : plan.statements ≠ [] := by
    intro none
    rw [Plan.isEmpty_iff.2 none] at isFull
    cases isFull
  rw [toList_script nonempty]
  refine List.splitOn_intercalate '\n' (fun line member => ?_) (by simp)
  rcases List.mem_append.1 member with written | rest
  · obtain ⟨text, inside, rfl⟩ := List.mem_map.1 written
    exact (lines text inside).not_mem_newline
  · obtain rfl := List.mem_singleton.1 rest
    exact List.not_mem_nil

/-- Every text of a plan of a reachable catalog is one statement. So a script that is rendered from
files can be taken apart at its line breaks: what is printed gives the statements of the plan and an
empty rest. -/
theorem lines_of_plan {catalog : Catalog} (reachable : catalog.Reachable) {keyspace : String}
    {plan : Plan} (planned : catalog.plan keyspace = .ok plan) :
    (∀ text ∈ plan.statements, OneStatement text) ∧
    (plan.isEmpty = false →
      (script plan).toList.splitOn '\n' = plan.statements.map String.toList ++ [[]]) ∧
    ∀ {σ : Type} (host : Host (StateM σ)) (paths : List String) (name : String) (found : Plan)
      (state after : σ),
      runFrom (planIn host.toFiles ⟨some name, paths⟩) state = (.ok found, after) →
        found.isEmpty = false →
        ∃ text, runFrom (render host ⟨some name, paths⟩ none .text) state =
            (.ok (), ((host.print text).run after).2) ∧
          text.toList.splitOn '\n' = found.statements.map String.toList ++ [[]] := by
  have statements := reachable.wellFormed.oneStatement planned
  refine ⟨statements, fun isFull => splitOn_script isFull statements, ?_⟩
  intro σ host paths name found state after ran isFull
  obtain ⟨declared, catalogFound, foundPlanned⟩ := planIn_eq_ok.1 ran
  have foundReachable := reachable_of_catalogOf catalogFound
  exact ⟨script found, render_of_planIn .text ran,
    splitOn_script isFull (foundReachable.wellFormed.oneStatement foundPlanned)⟩

/-- A table that nests a type below the values of a map is written behind that type; a table whose
name holds a second statement is refused and writes nothing. -/
theorem lines_of_nested_types :
    let point : List (String × DataType) := [("x", .scalar false .int)]
    let columns : List (String × Column) := [("a", .partition (.scalar false .int)),
      ("b", .partition (.scalar false .int)), ("c", .clustering (.scalar false .int) .descending),
      ("v", .regular (.map true (.scalar false .int) (.list true (.user true ⟨0, "Point"⟩))))]
    let catalog := Catalog.empty.performAll [.declareType "Point" point,
      .declareTable ⟨"t", none, columns⟩, .declareTable ⟨"u (p int); DROP TABLE t", none, columns⟩]
    catalog.Reachable ∧ ∃ plan, catalog.plan "app" = .ok plan ∧ plan.tables.length = 1 ∧
      (∀ text ∈ plan.statements, OneStatement text) ∧
      (script plan).toList.splitOn '\n' = plan.statements.map String.toList ++ [[]] := by
  intro point columns catalog
  have reachable : catalog.Reachable := ⟨_, rfl⟩
  obtain ⟨plan, planned⟩ := reachable.wellFormed.exists_plan (by decide : isIdentifier "app" = true)
    (by decide)
  have single : plan.tables.length = 1 := by
    obtain ⟨-, -, needed, -, rfl⟩ := Catalog.plan_eq_ok.1 planned
    have stored : catalog.tables.tables.length = 1 := by decide
    rw [List.length_map, stored]
  obtain ⟨statements, lines, -⟩ := lines_of_plan reachable planned
  refine ⟨reachable, plan, planned, single, statements, lines ?_⟩
  have some : plan.tables.isEmpty = false := by
    rw [List.isEmpty_eq_false_iff]
    intro none
    rw [none] at single
    cases single
  rw [Plan.isEmpty, some, Bool.and_false]

end CqlSchema.CommandLine
