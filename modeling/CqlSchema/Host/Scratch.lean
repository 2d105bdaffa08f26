import CqlSchema.Host.FileTree
import CqlSchema.Shell.Run
/-!
# A host that is a value

A scratch host keeps its files in a tree and what was printed in a text. Programs in the tree are
shell scripts. A run on it is a function of its state, so whole runs of the command line can be
compared and reasoned about.
-/

namespace CqlSchema

/-- Files, and what was printed. -/
structure Scratch where
  tree : FileTree
  printed : String

namespace Scratch

/-- Runs an operation of a tree on the files. -/
def onTree {α : Type} (operation : StateM FileTree α) : StateM Scratch α := fun scratch =>
  let (result, tree) := operation.run scratch.tree
  (result, { scratch with tree })

/-- Names of the programs that scripts count on. -/
def programNames : List String :=
  ["cat", "echo", "false", "grep", "mkdir", "printf", "rm", "sleep", "test", "touch", "true", "wc"]

/-- Script of a program that the shell itself has. -/
def programScript (name : String) : String :=
  "#!/bin/sh\n" ++ name ++ " \x22$@\x22\n"

/-- Script of the shell as a program: it looks for the script that its first argument names. -/
def shellScript : String :=
  "#!/bin/sh\necho \x22$0: 0: cannot open $1: No such file\x22 >&2; exit 2\n"

/-- Tree with the usual programs and devices. -/
def standardTree : FileTree :=
  let programs := ("sh", shellScript) :: programNames.map fun name => (name, programScript name)
  let places := [["bin"], ["usr", "bin"]]
  let tree := places.foldl
    (fun tree place => programs.foldl
      (fun tree (name, text) => tree.plant (place ++ [name]) text.toUTF8 true) tree) FileTree.empty
  ((tree.put ["dev"] .directory).put ["dev", "null"] .sink).put ["tmp"] .directory

/-- Host with the given environment, whose paths start from the given directory. -/
def host (current : Path) (environment : List (String × String)) : Host (StateM Scratch) :=
  let files := FileTree.files current
  { read := fun path => onTree (files.read path)
    write := fun path content => onTree (files.write path content)
    append := fun path content => onTree (files.append path content)
    createDirectories := fun path => onTree (files.createDirectories path)
    remove := fun path => onTree (files.remove path)
    isPresent := fun path => onTree (files.isPresent path)
    isFile := fun path => onTree (files.isFile path)
    program := fun path => onTree (files.program path)
    environment := fun name => return environment.lookup name
    print := fun text => modify fun scratch => { scratch with printed := scratch.printed ++ text }
    start := fun program arguments => onTree (Shell.start files program arguments) }

end Scratch

end CqlSchema
