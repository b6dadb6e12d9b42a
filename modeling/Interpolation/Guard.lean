import Interpolation.Error

/-!
# The cycle guard

The guard remembers which tokens are being resolved, and by whom, so that a token that leads back
to itself is noticed.

* `Scope` tells the owners of frames apart, `Frame` is a token in the hands of an owner;
* `Guard.push` and `Guard.pop` put a frame on top and take it from there, `Guard.release` takes
  the latest frame of an owner from wherever it is;
* `Guard.enter` gives a `Handle` for the frame it pushes; `Guard.close` pops that frame, and
  `Guard.drop` gives the handle up by releasing a frame of its owner.
-/

namespace Interpolation

/-- An owner of frames. -/
structure Scope where
  id : Nat
  deriving DecidableEq, Inhabited, Repr

/-- A token that an owner is resolving. -/
structure Frame where
  scope : Scope
  token : Text
  deriving DecidableEq, Repr

/-- The frames of the tokens that are being resolved, the latest first. -/
structure Guard where
  frames : List Frame
  deriving DecidableEq, Repr

/-- What remains in the hands of the one who entered a frame. -/
structure Handle where
  frame : Frame
  deriving DecidableEq, Repr

namespace Guard

/-- The guard without frames. -/
def empty : Guard := ⟨[]⟩

/-- Whether an owner is resolving a token. -/
def contains (g : Guard) (f : Frame) : Bool :=
  g.frames.elem f

/-- Puts a frame on top. -/
def push (g : Guard) (f : Frame) : Guard :=
  ⟨f :: g.frames⟩

/-- Takes a frame from the top. It is an imbalance if the frame is not there. -/
def pop (g : Guard) (f : Frame) : Except Error Guard :=
  match g.frames with
  | [] => .error (.imbalance f.token none)
  | top :: rest => if top = f then .ok ⟨rest⟩ else .error (.imbalance f.token (some top.token))

/-- Takes the latest frame of an owner away, wherever it is. -/
def release (g : Guard) (owner : Scope) : Guard :=
  ⟨g.frames.eraseP fun f => f.scope = owner⟩

/-- How many frames there are. -/
def depth (g : Guard) : Nat :=
  g.frames.length

/-- Puts a frame on top and gives a handle for it. -/
def enter (g : Guard) (f : Frame) : Handle × Guard :=
  (⟨f⟩, g.push f)

/-- Pops the frame of a handle, which has to be on top. -/
def close (g : Guard) (h : Handle) : Except Error Guard :=
  g.pop h.frame

/-- Gives a handle up: the latest frame of its owner is released. -/
def drop (g : Guard) (h : Handle) : Guard :=
  g.release h.frame.scope

@[simp] theorem pop_push (g : Guard) (f : Frame) : (g.push f).pop f = .ok g := by
  simp [push, pop]

@[simp] theorem release_push (g : Guard) (f : Frame) : (g.push f).release f.scope = g := by
  simp [push, release]

end Guard

end Interpolation
