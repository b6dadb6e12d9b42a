import Interpolation.Proofs.Guard.Nesting

/-!
# Handles and the frames they came with

Handles can be kept and given up in any order, among frames that were put on the guard without one.
To tell equal frames apart they are numbered in the order in which they are put on the guard, and a
handle goes by the number of the frame that it came with.

* `Custody` is a guard with the open handles and a record of the numbers of its frames;
  `Custody.step` is one request, `Custody.run` several of them;
* `Custody.Sound`: the record is the frames of the guard, and every handle knows its own frame;
  `Custody.step_cases` is all that a request can do, `Custody.sound_run` draws the conclusion;
* `Custody.releaseLatest_eq`: what is released is the latest frame of an owner, and all others stay
  in their order;
* `Custody.run_drop`: a handle that is given up takes its own frame away just if no frame of the same
  owner stands above it; otherwise its frame stays and the latest one of the owner goes.
-/

namespace Interpolation

/-- A guard together with the handles that are kept. -/
structure Custody where
  guard : Guard
  /-- The frames of the guard with their numbers, the latest first. A record only: no request reads
  it. -/
  record : List (Nat × Frame)
  /-- How many frames have been put on the guard so far. -/
  pushed : Nat
  /-- The open handles with the numbers of the frames they came with. -/
  handles : List (Nat × Handle)

namespace Custody

/-- What can be asked of a guard and of the handles that are kept. -/
inductive Request where
  | push (f : Frame)
  | enter (f : Frame)
  | pop (f : Frame)
  | release (owner : Scope)
  | contains (f : Frame)
  /-- Closes the handle of a number. -/
  | close (number : Nat)
  /-- Gives up the handle of a number. -/
  | drop (number : Nat)
  deriving DecidableEq, Repr

/-- The guard without frames, of which no handle is kept. -/
def start : Custody := ⟨.empty, [], 0, []⟩

/-- The handles of other numbers. -/
def others (c : Custody) (number : Nat) : List (Nat × Handle) :=
  c.handles.filter fun x => x.1 ≠ number

/-- Frames with numbers, without the latest one of an owner. -/
def releaseLatest (record : List (Nat × Frame)) (owner : Scope) : List (Nat × Frame) :=
  record.eraseP fun x => x.2.scope = owner

/-- One request. A handle that is closed is gone, also if its frame could not be popped. Where no
handle of the number is open, nothing happens. -/
def step (c : Custody) : Request → Except Error Bool × Custody
  | .push f =>
    (.ok true, { c with
      guard := c.guard.push f, record := (c.pushed, f) :: c.record, pushed := c.pushed + 1 })
  | .enter f =>
    let (handle, g) := c.guard.enter f
    (.ok true, ⟨g, (c.pushed, f) :: c.record, c.pushed + 1, (c.pushed, handle) :: c.handles⟩)
  | .pop f =>
    match c.guard.pop f with
    | .ok g => (.ok true, { c with guard := g, record := c.record.tail })
    | .error e => (.error e, c)
  | .release owner =>
    (.ok true, { c with
      guard := c.guard.release owner, record := releaseLatest c.record owner })
  | .contains f => (.ok (c.guard.contains f), c)
  | .close number =>
    match c.handles.lookup number with
    | none => (.ok false, c)
    | some handle =>
      match c.guard.close handle with
      | .ok g =>
        (.ok true, { c with guard := g, record := c.record.tail, handles := c.others number })
      | .error e => (.error e, { c with handles := c.others number })
  | .drop number =>
    match c.handles.lookup number with
    | none => (.ok false, c)
    | some handle =>
      (.ok true, { c with
        guard := c.guard.drop handle
        record := releaseLatest c.record handle.frame.scope
        handles := c.others number })

/-- What several requests lead to, one after another. -/
def run (c : Custody) (requests : List Request) : Custody :=
  requests.foldl (fun c request => (c.step request).2) c

/-! ## What is released -/

variable {c : Custody} {request : Request} {record front behind : List (Nat × Frame)}
  {owner : Scope} {number : Nat} {f : Frame} {x : Nat × Frame}

/-- The latest frame of an owner is taken away, and all others stay in their order. -/
theorem releaseLatest_eq (hfront : ∀ y ∈ front, y.2.scope ≠ owner) (hx : x.2.scope = owner) :
    releaseLatest (front ++ x :: behind) owner = front ++ behind := by
  rw [releaseLatest, List.eraseP_append_right _ (by simpa using hfront),
    List.eraseP_cons_of_pos (by simpa using hx)]

theorem releaseLatest_sublist (record : List (Nat × Frame)) (owner : Scope) :
    (releaseLatest record owner).Sublist record :=
  List.eraseP_sublist

/-- The frames of the record are released like those of the guard. -/
theorem frames_release {g : Guard} (h : record.map Prod.snd = g.frames) (owner : Scope) :
    (releaseLatest record owner).map Prod.snd = (g.release owner).frames := by
  rw [Guard.release, ← h, List.eraseP_map]
  rfl

theorem frames_pop {g g' : Guard} (h : record.map Prod.snd = g.frames) (hp : g.pop f = .ok g') :
    record.tail.map Prod.snd = g'.frames := by
  rw [Guard.pop, ← h] at hp
  cases record with
  | nil => cases hp
  | cons x record =>
    simp only [List.map_cons] at hp
    split at hp
    · obtain rfl := Except.ok.inj hp
      rfl
    · cases hp

/-! ## What a request can do -/

/-- The record is that of the guard, with the numbers of earlier frames below those of later ones,
and an open handle is that of the frame of its number. -/
structure Sound (c : Custody) : Prop where
  frames : c.record.map Prod.snd = c.guard.frames
  ordered : c.record.Pairwise fun later earlier => earlier.1 < later.1
  numbered : ∀ x ∈ c.record, x.1 < c.pushed
  known : ∀ x ∈ c.handles, x.1 < c.pushed
  own : ∀ x ∈ c.handles, ∀ f, (x.1, f) ∈ c.record → f = x.2.frame

theorem sound_start : start.Sound :=
  ⟨rfl, .nil, nofun, nofun, nofun⟩

/-- A request puts a frame with a new number on top, with or without a handle for it, or takes
frames and handles away. -/
theorem step_cases (h : c.Sound) (request : Request) :
    (∃ f handles, (c.step request).2 =
        ⟨c.guard.push f, (c.pushed, f) :: c.record, c.pushed + 1, handles⟩ ∧
      ∀ x ∈ handles, x ∈ c.handles ∨ x = (c.pushed, ⟨f⟩)) ∨
    ∃ g record handles, (c.step request).2 = ⟨g, record, c.pushed, handles⟩ ∧
      record.map Prod.snd = g.frames ∧ record.Sublist c.record ∧ ∀ x ∈ handles, x ∈ c.handles := by
  have others_subset (number : Nat) : ∀ x ∈ c.others number, x ∈ c.handles :=
    fun x hx => (List.mem_filter.1 hx).1
  cases request with
  | push f => exact .inl ⟨f, c.handles, rfl, fun x hx => .inl hx⟩
  | enter f =>
    refine .inl ⟨f, (c.pushed, ⟨f⟩) :: c.handles, rfl, fun x hx => ?_⟩
    exact (List.mem_cons.1 hx).symm
  | pop f =>
    right
    rw [step]
    split
    · rename_i g hp
      exact ⟨g, _, _, rfl, frames_pop h.frames hp, List.tail_sublist _, fun _ hx => hx⟩
    · exact ⟨_, _, _, rfl, h.frames, .refl _, fun _ hx => hx⟩
  | release owner =>
    exact .inr ⟨_, _, _, rfl, frames_release h.frames owner, releaseLatest_sublist _ _, fun _ hx => hx⟩
  | contains f => exact .inr ⟨_, _, _, rfl, h.frames, .refl _, fun _ hx => hx⟩
  | close number =>
    right
    rw [step]
    split
    · exact ⟨_, _, _, rfl, h.frames, .refl _, fun _ hx => hx⟩
    · split
      · rename_i g hp
        exact ⟨g, _, _, rfl, frames_pop h.frames hp, List.tail_sublist _, others_subset number⟩
      · exact ⟨_, _, _, rfl, h.frames, .refl _, others_subset number⟩
  | drop number =>
    right
    rw [step]
    split
    · exact ⟨_, _, _, rfl, h.frames, .refl _, fun _ hx => hx⟩
    · exact ⟨_, _, _, rfl, frames_release h.frames _, releaseLatest_sublist _ _, others_subset number⟩

/-- A request that ends with an error leaves the guard as it is. -/
theorem guard_of_error {e : Error} (h : (c.step request).1 = .error e) :
    (c.step request).2.guard = c.guard ∧ (c.step request).2.record = c.record := by
  revert h
  cases request with
  | push | enter | release | contains => exact nofun
  | pop f =>
    rw [step]
    split
    · exact nofun
    · exact fun _ => ⟨rfl, rfl⟩
  | close number =>
    rw [step]
    split
    · exact nofun
    · split
      · exact nofun
      · exact fun _ => ⟨rfl, rfl⟩
  | drop number =>
    rw [step]
    split <;> exact nofun

theorem Sound.step (h : c.Sound) (request : Request) : (c.step request).2.Sound := by
  rcases step_cases h request with ⟨f, handles, hs, hh⟩ | ⟨g, record, handles, hs, hf, hr, hh⟩
  · rw [hs]
    refine ⟨congrArg (f :: ·) h.frames, List.pairwise_cons.2 ⟨h.numbered, h.ordered⟩,
      fun x hx => ?_, fun x hx => ?_, fun x hx f' hf' => ?_⟩
    · rcases List.mem_cons.1 hx with rfl | hx
      · exact Nat.lt_succ_self _
      · exact Nat.lt_succ_of_lt (h.numbered x hx)
    · rcases hh x hx with hx | rfl
      · exact Nat.lt_succ_of_lt (h.known x hx)
      · exact Nat.lt_succ_self _
    · -- an earlier handle has another number than the new frame, and the new handle than all others
      rcases hh x hx with hx | rfl <;> rcases List.mem_cons.1 hf' with he | hf'
      · exact absurd (h.known x hx) (Nat.not_lt.2 (Nat.le_of_eq (Prod.mk.inj he).1.symm))
      · exact h.own x hx f' hf'
      · exact (Prod.mk.inj he).2
      · exact absurd (h.numbered _ hf') (Nat.lt_irrefl _)
  · rw [hs]
    exact ⟨hf, h.ordered.sublist hr, fun x hx => h.numbered x (hr.subset hx),
      fun x hx => h.known x (hh x hx), fun x hx f hf => h.own x (hh x hx) f (hr.subset hf)⟩

theorem Sound.run (h : c.Sound) (requests : List Request) : (c.run requests).Sound := by
  induction requests generalizing c with
  | nil => exact h
  | cons request requests ih => exact ih (h.step request)

theorem sound_run (requests : List Request) : (start.run requests).Sound :=
  sound_start.run requests

/-! ## Giving a handle up -/

/-- A token is in the hands of an owner if one of the frames that are left is its frame. -/
theorem Sound.contains_iff (h : c.Sound) :
    c.guard.contains f = true ↔ ∃ number, (number, f) ∈ c.record := by
  rw [Guard.contains_iff_mem, ← h.frames, List.mem_map]
  exact ⟨fun ⟨⟨number, _⟩, hx, hf⟩ => ⟨number, hf ▸ hx⟩, fun ⟨number, hx⟩ => ⟨_, hx, rfl⟩⟩

/-- The frame of an open handle, and what stands above and below it. -/
theorem Sound.exists_own (h : c.Sound) {handle : Handle} (hh : c.handles.lookup number = some handle)
    (hn : number ∈ c.record.map Prod.fst) :
    ∃ front behind, c.record = front ++ (number, handle.frame) :: behind := by
  obtain ⟨⟨_, f⟩, hx, rfl⟩ := List.mem_map.1 hn
  obtain ⟨before, after, hhandles, -⟩ := List.lookup_eq_some_iff.1 hh
  obtain rfl := h.own (_, handle) (by rw [hhandles]; simp) f hx
  exact List.append_of_mem hx

/-- The number of a frame is that of no other one. -/
theorem Sound.not_mem (h : c.Sound) (hr : c.record = front ++ x :: behind) : x ∉ front ++ behind := by
  have hordered := h.ordered
  rw [hr, List.pairwise_append, List.pairwise_cons] at hordered
  obtain ⟨-, ⟨hbehind, -⟩, hfront⟩ := hordered
  intro hx
  rcases List.mem_append.1 hx with hx | hx
  · exact Nat.lt_irrefl _ (hfront x hx x List.mem_cons_self)
  · exact Nat.lt_irrefl _ (hbehind x hx)

/-- Releasing for an owner takes a frame of its away just if no other one of them stands above. -/
theorem Sound.releaseLatest_eq_iff (h : c.Sound) (hr : c.record = front ++ x :: behind)
    (hx : x.2.scope = owner) :
    releaseLatest c.record owner = front ++ behind ↔ ∀ y ∈ front, y.2.scope ≠ owner := by
  constructor
  · intro he y hy ho
    obtain ⟨z, upper, lower, hupper, hz, rfl, -⟩ :=
      List.exists_of_eraseP (p := fun y : Nat × Frame => y.2.scope = owner) hy (by simpa using ho)
    refine h.not_mem hr (he ▸ ?_)
    rw [hr, List.append_assoc, List.cons_append,
      releaseLatest_eq (by simpa using hupper) (by simpa using hz)]
    simp
  · intro hfront
    rw [hr, releaseLatest_eq hfront hx]

/-- After any requests, the record is that of the guard, and requests that end with an error leave both
as they are. A handle whose frame is still on the guard takes, when it is given up, the latest frame of
its owner away, and every other frame stays where it is: this is its own frame just if no frame of the
owner stands above it. The tokens in hand are then those of the frames that are left. -/
theorem run_drop (requests : List Request) :
    let c := start.run requests
    (c.record.map Prod.snd = c.guard.frames ∧ (c.record.map Prod.fst).Nodup ∧
      ∀ request e, (c.step request).1 = .error e →
        (c.step request).2.guard = c.guard ∧ (c.step request).2.record = c.record) ∧
    ∀ number handle, c.handles.lookup number = some handle → number ∈ c.record.map Prod.fst →
      let d := (c.step (.drop number)).2
      (∃ front behind, c.record = front ++ (number, handle.frame) :: behind ∧
        (d.record = front ++ behind ↔ ∀ x ∈ front, x.2.scope ≠ handle.frame.scope)) ∧
      (∃ front latest behind, c.record = front ++ latest :: behind ∧ d.record = front ++ behind ∧
        latest.2.scope = handle.frame.scope ∧ ∀ x ∈ front, x.2.scope ≠ handle.frame.scope) ∧
      d.record.map Prod.snd = d.guard.frames ∧
      ∀ f, d.guard.contains f = true ↔ ∃ number, (number, f) ∈ d.record := by
  intro c
  have sound : c.Sound := sound_run requests
  have distinct : (c.record.map Prod.fst).Nodup :=
    List.pairwise_map.2 (sound.ordered.imp Nat.ne_of_gt)
  refine ⟨⟨sound.frames, distinct, fun request e he => guard_of_error he⟩, ?_⟩
  intro number handle hh hn d
  have hd : d.record = releaseLatest c.record handle.frame.scope := by
    show (c.step (.drop number)).2.record = _
    rw [step, hh]
  obtain ⟨front, behind, hr⟩ := sound.exists_own hh hn
  refine ⟨⟨front, behind, hr, by rw [hd]; exact sound.releaseLatest_eq_iff hr rfl⟩, ?_,
    (sound.step _).frames, fun f => (sound.step _).contains_iff⟩
  have hown : (number, handle.frame) ∈ c.record := by rw [hr]; simp
  obtain ⟨latest, upper, lower, hupper, hlatest, hu, he⟩ :=
    List.exists_of_eraseP (p := fun x : Nat × Frame => x.2.scope = handle.frame.scope) hown (by simp)
  exact ⟨upper, latest, lower, hu, hd.trans he, by simpa using hlatest, by simpa using hupper⟩

/-- Of two handles of one owner the earlier one is given up, and the frame of the later one goes: its
token is no longer in hand though its handle is open, and the token of the earlier one still is. -/
theorem run_drop_out_of_order :
    let a : Frame := ⟨⟨0⟩, ['a']⟩
    let b : Frame := ⟨⟨0⟩, ['b']⟩
    let c := start.run [.enter a, .enter b]
    let d := (c.step (.drop 0)).2
    c.record = [(1, b), (0, a)] ∧ d.record = [(0, a)] ∧ d.handles = [(1, ⟨b⟩)] ∧
      d.guard.contains a = true ∧ d.guard.contains b = false ∧
      ∃ front behind, c.record = front ++ (0, a) :: behind ∧
        ¬∀ x ∈ front, x.2.scope ≠ a.scope := by
  intro a b c d
  obtain ⟨-, hdrop⟩ := run_drop [.enter a, .enter b]
  obtain ⟨⟨front, behind, hr, hiff⟩, -, -, -⟩ := hdrop 0 ⟨a⟩ (by decide) (by decide)
  refine ⟨by decide, by decide, by decide, by decide, by decide, front, behind, hr, ?_⟩
  -- if the condition held, the frame of the handle would be gone
  intro hall
  have hgone : d.record = front ++ behind := hiff.2 hall
  have hmem : (0, a) ∉ front ++ behind := (sound_run [.enter a, .enter b]).not_mem hr
  rw [← hgone] at hmem
  exact hmem (by decide)

end Custody

end Interpolation
