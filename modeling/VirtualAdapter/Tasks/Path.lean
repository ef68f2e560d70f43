/-!
# Paths

A path is kept as it is written, since messages show it that way.  Empty steps
and steps that stay in place lead nowhere; they are dropped only from the end,
when the parent is taken.
-/

namespace VirtualAdapter
namespace Tasks

/-- How a path begins. -/
inductive PathStart
  /-- At the top. -/
  | top
  /-- With a step that stays in place. -/
  | here
  /-- With its first step. -/
  | bare
  deriving DecidableEq

/-- A path as it is written. -/
structure Path where
  /-- How it begins. -/
  start : PathStart
  /-- Its steps, as they stand between the separators. -/
  steps : List String
  deriving DecidableEq

/-- A step that leads nowhere. -/
def isIdle (step : String) : Bool :=
  step == "" || step == "."

namespace Path

/-- Read a path. -/
def ofText (text : String) : Path :=
  match text.splitOn "/" with
  | "" :: first :: rest => ⟨.top, first :: rest⟩
  | "." :: rest => ⟨.here, rest⟩
  | steps => ⟨.bare, steps⟩

/-- The written form of a path. -/
def text (path : Path) : String :=
  match path.start with
  | .top => "/" ++ "/".intercalate path.steps
  | .here => "/".intercalate ("." :: path.steps)
  | .bare => "/".intercalate path.steps

/-- Steps without the idle ones at their end. -/
def trimmed : List String → List String
  | [] => []
  | step :: rest =>
      match trimmed rest with
      | [] => if isIdle step then [] else [step]
      | kept => step :: kept

/-- Nothing is trimmed behind a step that leads somewhere. -/
theorem trimmed_append_of_not_isIdle
    (steps : List String)
    {last : String}
    (lastLeads : isIdle last = false) :
    trimmed (steps ++ [last]) = steps ++ [last] := by
  induction steps with
  | nil => simp [trimmed, lastLeads]
  | cons step rest hypothesis =>
      cases rest <;> simp_all [trimmed]

/-- A path without its last step; a step that stays in place can be taken back
only if it is all that there is. -/
def parent? (path : Path) : Option Path :=
  match trimmed path.steps with
  | [] =>
      match path.start with
      | .here => some ⟨.bare, []⟩
      | .top | .bare => none
  | steps => some ⟨path.start, trimmed steps.dropLast⟩

/-- A path with one more step. -/
def child (path : Path) (name : String) : Path :=
  { path with steps := path.steps ++ [name] }

/-- The parent of a child is the path without its idle end. -/
theorem parent?_child
    (path : Path)
    {name : String}
    (nameLeads : isIdle name = false) :
    (path.child name).parent? =
      some { path with steps := trimmed path.steps } := by
  unfold parent? child
  simp only
  rw [trimmed_append_of_not_isIdle path.steps nameLeads]
  cases path.steps with
  | nil => simp
  | cons head tail =>
      show some (⟨path.start, trimmed ((head :: tail) ++ [name]).dropLast⟩ : Path) = _
      rw [List.dropLast_concat]

/-- The path that another one leads to from the end of this one. -/
def join (path other : Path) : Path :=
  match other.start, other.steps with
  | .top, _ => other
  | .here, steps => { path with steps := path.steps ++ "." :: steps }
  | .bare, [] => path.child ""
  | .bare, steps => { path with steps := path.steps ++ steps }

end Path
end Tasks
end VirtualAdapter
