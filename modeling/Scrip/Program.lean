import Scrip.Session
import Scrip.Settings

/-!
# Programs

How the other programs end.

* `Program.migrate`: the program that is told what to do with the migrations.
* `Program.serve`: the server, as far as it stops by itself.
-/

namespace Scrip.Program

/-- What the word in front tells the migrations to do. No word means that all are applied. -/
def migration? : List String → Option MigrationCommand
  | [] | "up" :: _ => some (.up none)
  | "down" :: _ => some (.down none)
  | "fresh" :: _ => some .fresh
  | "status" :: _ => some .status
  | _ => none

/-- The exit code of the program for migrations, and the store afterwards. -/
def migrate (words : List String) (s : Store) : Nat × Store :=
  match migration? words with
  | none => (2, s)
  | some c =>
    let (succeeded, s) := s.migrate c
    (if succeeded then 0 else 1, s)

/-- The exit code of the server, when it stops by itself. Without a section on the server there is
nothing to run; with one it only stops when it cannot start. A database without its path breaks the
program off. -/
def serve : Except Settings.Flaw Settings → Nat
  | .error .pathMissing => 101
  | .error .invalid => 1
  | .ok s => if s.server.isSome then 1 else 0

end Scrip.Program
