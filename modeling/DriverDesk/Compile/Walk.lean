/-!
# Walking the lines

A compile walks the lines of its file, reports each, and asks every eighth line
whether it should stop. A signal says at which lines it answers yes.
-/

namespace DriverDesk

/-- The answer of a signal when it is asked on a line, counted from zero. -/
abbrev Signal := Nat → Bool

/-- What a compile tells or asks its signal. -/
inductive SignalCall where
  /-- A line, counted from one, and the number of lines. -/
  | progress (line total : Nat)
  | rest
  | poll
  deriving DecidableEq, Repr

namespace Signal

/-- A signal that lets every compile run to its end. -/
def never : Signal := fun _ => false

/-- A signal that stops a compile once a number of lines has been reported. -/
def afterLines (count : Nat) : Signal := fun line => count ≤ line + 1

/-- The calls of a walk over `count` lines from `line` on, and whether the walk
came to its end. -/
def walk (signal : Signal) (total : Nat) : Nat → Nat → List SignalCall × Bool
  | _, 0 => ([], true)
  | line, count + 1 =>
    if line % 8 = 0 then
      let calls := [.progress (line + 1) total, .rest, .poll]
      if signal line then (calls, false)
      else
        let (after, ended) := walk signal total (line + 1) count
        (calls ++ after, ended)
    else
      let (after, ended) := walk signal total (line + 1) count
      (.progress (line + 1) total :: after, ended)

end Signal

end DriverDesk
