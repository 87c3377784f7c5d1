/-
Stages of an extraction, and the order in which they run.

A stage runs after the stages it depends on; among those that are ready, one
of a lower layer comes first, then one of a lesser id. The order is made by
taking stages from the ready ones, least first. A stage that is taken is
crossed off what its dependents wait for, once for every time they name it,
and each time a dependent then waits for nothing it becomes ready; so one that
names a dependency twice becomes ready twice. The order stands if it is as
long as the registry.
-/
import PlotDigitizer.Text

namespace PlotDigitizer

inductive Layer where
  | interpret
  | assemble
deriving Repr, DecidableEq

def Layer.rank : Layer → Nat
  | .interpret => 0
  | .assemble => 1

/-- A stage whose work is a `β`. -/
structure Stage (β : Type) where
  id : Text
  layer : Layer
  dependencies : List Text
  body : β

/-- Stages in the order of their registration, no two of one id. -/
structure Registry (β : Type) where
  stages : List (Stage β)
  distinct : (stages.map (·.id)).Nodup

inductive RegistryError where
  | duplicate (id : Text)
  | unknown (id dependency : Text)
  /-- Stages that were never ready. -/
  | circular (stuck : List Text)
deriving Repr, DecidableEq

variable {β : Type}

/-- Whether a stage is taken before another if both are ready. -/
def Stage.precedes (s t : Stage β) : Bool :=
  s.layer.rank < t.layer.rank || (s.layer.rank == t.layer.rank && s.id < t.id)

/-- The first of the ready stages to be taken, and the others. -/
def takeLeast? : List (Stage β) → Option (Stage β × List (Stage β))
  | [] => none
  | s :: rest =>
    match takeLeast? rest with
    | none => some (s, [])
    | some (t, others) => if t.precedes s then some (t, s :: others) else some (s, t :: others)

/-- An order in the making. -/
structure Progress (β : Type) where
  /-- What each stage still waits for. -/
  waiting : List (Stage β × List Text)
  ready : List (Stage β)
  ordered : Array (Stage β)

/-- Crosses `id` off what a stage waits for. -/
def Progress.release (id : Text) (o : Progress β) (s : Stage β) : Progress β :=
  let waiting := o.waiting.map fun (t, ids) =>
    (t, if t.id == s.id then ids.filter (· != id) else ids)
  let free := waiting.any fun (t, ids) => t.id == s.id && ids.isEmpty
  { o with waiting, ready := if free then s :: o.ready else o.ready }

namespace Registry

def empty : Registry β := ⟨[], .nil⟩

def ids (r : Registry β) : List Text := r.stages.map (·.id)

def size (r : Registry β) : Nat := r.stages.length

def register (r : Registry β) (s : Stage β) : Except RegistryError (Registry β) :=
  if h : s.id ∈ r.stages.map (·.id) then .error (.duplicate s.id)
  else .ok ⟨r.stages ++ [s], by
    rw [List.map_append, List.nodup_append]
    refine ⟨r.distinct, by simp, ?_⟩
    rintro a ha b hb rfl
    simp only [List.map_cons, List.map_nil, List.mem_singleton] at hb
    exact h (hb ▸ ha)⟩

theorem register_eq_ok {r t : Registry β} {s : Stage β} :
    r.register s = .ok t ↔ s.id ∉ r.ids ∧ t.stages = r.stages ++ [s] := by
  unfold register ids
  split
  · simp_all
  · rename_i h
    constructor
    · rintro ⟨⟩
      exact ⟨h, rfl⟩
    · rintro ⟨-, ht⟩
      cases t
      simp_all

/-- The stages that name an id among their dependencies, each as often as it
does. -/
def dependents (r : Registry β) (id : Text) : List (Stage β) :=
  r.stages.flatMap fun s => List.replicate (s.dependencies.count id) s

/-- Takes ready stages until there are none, at most as many as the number
says. -/
def advance (r : Registry β) : Nat → Progress β → Progress β
  | 0, o => o
  | room + 1, o =>
    match takeLeast? o.ready with
    | none => o
    | some (s, ready) =>
      r.advance room
        ((r.dependents s.id).foldl (.release s.id) { o with ready, ordered := o.ordered.push s })

/-- More stages than are ever taken: one is ready at most as often as those it
depends on are, each time counted as often as it is named. -/
def room (r : Registry β) : Nat :=
  let named := (r.stages.flatMap (·.dependencies)).length
  r.size * Nat.pow (named + 1) r.size

/-- The first dependency that is not registered, and the stage that has it. -/
def unknown? (r : Registry β) : Option (Text × Text) :=
  r.stages.findSome? fun s =>
    (s.dependencies.find? fun d => !r.ids.contains d).map fun d => (s.id, d)

/-- The stages in the order in which they run. -/
def order (r : Registry β) : Except RegistryError (List (Stage β)) :=
  match r.unknown? with
  | some (id, dependency) => .error (.unknown id dependency)
  | none =>
    let o := r.advance r.room
      { waiting := r.stages.map fun s => (s, s.dependencies)
        ready := r.stages.filter (·.dependencies.isEmpty)
        ordered := #[] }
    if o.ordered.size = r.size then .ok o.ordered.toList
    else
      let stuck := (o.waiting.filter fun (_, ids) => !ids.isEmpty).map fun (s, _) => s.id
      .error (.circular (stuck.mergeSort fun a b => !(b < a)))

end Registry
end PlotDigitizer
