import MpegRecorder.Proofs.Output.Acts
import MpegRecorder.Proofs.Output.Course
import MpegRecorder.Proofs.Output.Pending

/-!
Recordings in portions. The bytes of a recording without faults come in portions that belong together, and as
long as every search finds splice points between portions, whatever waits and every file written so far is a
row of portions; only a last piece, behind which nothing comes, may be of another form.
-/

namespace MpegRecorder

namespace Output

/-- What is whole is fit, also with more that is fit behind it. -/
structure Joins (whole fit : Bytes → Prop) : Prop where
  empty : whole []
  covers : ∀ {data}, whole data → fit data
  append : ∀ {data more}, whole data → fit more → fit (data ++ more)

/-- Searches under the policy find splice points between portions only. -/
structure Parts (whole fit : Bytes → Prop) (policy : CutPolicy) : Prop extends Joins whole fit where
  parted : ∀ {view cut}, fit view → policy.findCut view = some cut →
    whole (view.take cut) ∧ fit (view.drop cut)

/-- What waits and what was written to the files so far is fit; where more waits, it continues a whole file. -/
structure Portions (whole fit : Bytes → Prop) (visited : List Nat) (state : Output × Medium) : Prop where
  listed : ∀ id, state.1.file? = some id → id ∈ visited
  held : ∀ id ∈ visited, fit (state.2.storage.content id)
  waiting : fit state.1.buffer.content
  continues : state.1.buffer.content ≠ [] → ∀ id, state.1.file? = some id →
    whole (state.2.storage.content id)

section Portions

variable {whole fit : Bytes → Prop} {visited : List Nat} {before after : Output × Medium}

theorem Parts.chosen {output : Output} (parts : Parts whole fit output.policy) {force : Bool}
    {request : Request} {cut : Nat} (fits : fit output.buffer.content)
    (chosen : Chosen force request output cut) :
    whole (output.buffer.content.take cut) ∧ fit (output.buffer.content.drop cut) := by
  rcases chosen with found | ⟨rfl, -⟩
  · exact parts.parted fits found
  · exact ⟨parts.empty, fits⟩

theorem Portions.gains (portions : Portions whole fit visited before) {policy : CutPolicy}
    (parts : Parts whole fit policy) {data : Bytes} (waited : before.1.buffer.content = [] → data = [])
    (fits : fit data) {id : Nat} (member : id ∈ visited) :
    fit (before.2.storage.content id ++ if before.1.file? = some id then data else []) := by
  have held := portions.held id member
  by_cases here : before.1.file? = some id
  · rw [if_pos here]
    by_cases empty : before.1.buffer.content = []
    · rw [waited empty, List.append_nil]
      exact held
    · exact parts.append (portions.continues empty id here) fits
  · rw [if_neg here, List.append_nil]
    exact held

theorem Portions.written (portions : Portions whole fit visited before) {policy : CutPolicy}
    (parts : Parts whole fit policy) (written : Written before after) :
    Portions whole fit visited after where
  listed id here := portions.listed id (written.file ▸ here)
  held id member := by
    rw [written.gains id]
    exact portions.gains parts (fun empty => empty) portions.waiting member
  waiting := by
    rw [written.waiting]
    exact parts.covers parts.empty
  continues filled := absurd written.waiting filled

theorem Portions.more (portions : Portions whole fit visited after) :
    Portions whole fit (visited ++ after.1.file?.toList) after where
  listed id here := List.mem_append_left _ (portions.listed id here)
  held id member := by
    rcases List.mem_append.mp member with earlier | here
    · exact portions.held id earlier
    · exact portions.held id (portions.listed id (Option.mem_toList.mp here))
  waiting := portions.waiting
  continues := portions.continues

theorem Portions.searched (portions : Portions whole fit visited before)
    (parts : Parts whole fit before.1.policy) {force : Bool} (searched : Searched force before after) :
    Portions whole fit (visited ++ after.1.file?.toList) after := by
  have front {cut : Nat} (empty : before.1.buffer.content = []) :
      before.1.buffer.content.take cut = [] := by
    rw [empty, List.take_nil]
  cases searched with
  | rests same nothing =>
    subst same
    exact portions.more
  | misses waits unforced missed within asks written => exact (portions.written parts written).more
  | refused waits chosen refused happened =>
    obtain ⟨left, right⟩ := parts.chosen portions.waiting chosen
    refine .more ⟨fun id here => ?_, fun id member => ?_, refused.waiting ▸ right, fun _ id here => ?_⟩
    · rw [refused.shut] at here
      cases here
    · rw [refused.gains id]
      exact portions.gains parts front (parts.covers left) member
    · rw [refused.shut] at here
      cases here
  | moves waits filled chosen waiting handover =>
    obtain ⟨left, right⟩ := parts.chosen portions.waiting chosen
    refine ⟨fun id here => List.mem_append_right _ (Option.mem_toList.mpr here), fun id member => ?_,
      waiting ▸ parts.covers parts.empty, fun filled => absurd waiting filled⟩
    by_cases new : after.1.file? = some id
    · rw [Option.some.inj (new.symm.trans handover.file), handover.content]
      exact right
    · have old := (List.mem_append.mp member).resolve_right fun here => new (Option.mem_toList.mp here)
      have apart : id ≠ _ := fun same => new (handover.file.trans (congrArg some same.symm))
      rw [handover.others id apart]
      exact portions.gains parts front (parts.covers left) old

theorem Portions.adds (portions : Portions whole fit visited before) (adds : Adds [] before after) :
    Portions whole fit visited after where
  listed id here := portions.listed id (adds.file ▸ here)
  held id member := adds.storage ▸ portions.held id member
  waiting := by
    rw [adds.waiting, List.append_nil]
    exact portions.waiting
  continues filled id here := by
    rw [adds.waiting, List.append_nil] at filled
    rw [adds.storage]
    exact portions.continues filled id (adds.file ▸ here)

theorem Portions.extend (portions : Portions whole whole visited before) {policy : CutPolicy}
    (parts : Parts whole fit policy) {data : Bytes} (fits : fit data) (adds : Adds data before after) :
    Portions whole fit visited after where
  listed id here := portions.listed id (adds.file ▸ here)
  held id member := adds.storage ▸ parts.covers (portions.held id member)
  waiting := by
    rw [adds.waiting]
    exact parts.append portions.waiting fits
  continues _ id here := by
    rw [adds.storage]
    exact portions.held id (portions.listed id (adds.file ▸ here))

theorem Portions.course (portions : Portions whole fit visited before) (parts : Parts whole fit before.1.policy)
    {force : Bool} {events : List Event} (course : Course force events before after) :
    Portions whole fit (visited ++ after.1.file?.toList) after := by
  cases course with
  | stands same => exact .more (same ▸ portions)
  | writes written => exact (portions.written parts written).more
  | searches searched => exact portions.searched parts searched

end Portions

/-- The policy searches for splice points of the kind, or takes the first byte for one. -/
def CutPolicy.Aims (kind : Container.Kind) (policy : CutPolicy) : Prop :=
  policy.output = kind ∨ policy.family = none

structure Going (kind : Container.Kind) (state : Output × Medium) : Prop where
  sound : state.1.Sound state.2.storage
  aims : state.1.policy.Aims kind

structure Portioned (kind : Container.Kind) (whole fit : Bytes → Prop) (visited : List Nat)
    (state : Output × Medium) : Prop extends Going kind state where
  portions : Portions whole fit visited state

namespace Act

/-- An act that hands over only bytes of the form, and sets only what a recording of the kind sets. -/
def Feeds (kind : Container.Kind) (form : Bytes → Prop) : Act → Prop
  | ask (.append data) => form data
  | ask (.setPolicy other _ _) => other = kind
  | ask (.setRingLimit _) => False
  | _ => True

def Rests (act : Act) : Prop :=
  ∀ kind, act.Feeds kind fun _ => False

/-- Acts of a recording: whole portions are handed over, and something fit at most once, at the end. -/
inductive Recorded (kind : Container.Kind) (whole fit : Bytes → Prop) : List Act → Prop where
  | rests {acts : List Act} (quiet : ∀ act ∈ acts, act.Rests) : Recorded kind whole fit acts
  | last {data : Bytes} {acts : List Act} (fits : fit data) (quiet : ∀ act ∈ acts, act.Rests) :
    Recorded kind whole fit (.ask (.append data) :: acts)
  | feeds {act : Act} {acts : List Act} (feeds : act.Feeds kind whole)
    (later : Recorded kind whole fit acts) : Recorded kind whole fit (act :: acts)

def files : List Act → Output × Medium → List Nat
  | [], _ => []
  | act :: later, state => (act.perform state).1.file?.toList ++ files later (act.perform state)

variable {kind : Container.Kind} {whole fit form : Bytes → Prop} {act : Act}

theorem Feeds.append_or_rests (feeds : act.Feeds kind form) :
    (∃ data, act = .ask (.append data) ∧ form data) ∨ act.Feeds kind fun _ => False := by
  cases act with
  | ask operation =>
    cases operation with
    | append data => exact .inl ⟨data, rfl, feeds⟩
    | _ => exact .inr feeds
  | _ => exact .inr feeds

theorem Feeds.mono {other : Bytes → Prop} (feeds : act.Feeds kind form)
    (covers : ∀ data, act = .ask (.append data) → form data → other data) : act.Feeds kind other := by
  cases act with
  | ask operation =>
    cases operation with
    | append data => exact covers data rfl feeds
    | _ => exact feeds
  | _ => exact feeds

theorem Rests.feeds (rests : act.Rests) : act.Feeds kind form :=
  (rests kind).mono fun _ _ => False.elim

theorem Recorded.mono {acts : List Act} {other final : Bytes → Prop}
    (recorded : Recorded kind whole fit acts)
    (covers : ∀ data, .ask (.append data) ∈ acts → (whole data → other data) ∧ (fit data → final data)) :
    Recorded kind other final acts := by
  induction recorded with
  | rests quiet => exact .rests quiet
  | last fits quiet => exact .last ((covers _ (List.mem_cons_self ..)).2 fits) quiet
  | feeds feeds later ih =>
    refine .feeds (feeds.mono fun data same => (covers data ?_).1) (ih fun data member => covers data ?_)
    · exact same ▸ List.mem_cons_self ..
    · exact List.mem_cons_of_mem _ member

theorem Recorded.behind {front behind : List Act} (feeds : ∀ act ∈ front, act.Feeds kind whole)
    (recorded : Recorded kind whole fit behind) : Recorded kind whole fit (front ++ behind) := by
  induction front with
  | nil => exact recorded
  | cons act later ih =>
    exact .feeds (feeds act (List.mem_cons_self ..)) (ih fun other member =>
      feeds other (List.mem_cons_of_mem _ member))

theorem Recorded.quiet {acts later : List Act} (recorded : Recorded kind whole fit acts)
    (quiet : ∀ act ∈ later, act.Rests) : Recorded kind whole fit (acts ++ later) := by
  induction recorded with
  | rests rests => exact .rests (List.forall_mem_append.mpr ⟨rests, quiet⟩)
  | last fits rests => exact .last fits (List.forall_mem_append.mpr ⟨rests, quiet⟩)
  | feeds feeds _ ih => exact .feeds feeds ih

theorem recorded_of_front {front behind acts : List Act} (recorded : Recorded kind whole fit acts)
    (parts : acts = front ++ behind) : Recorded kind whole fit front := by
  induction recorded generalizing front with
  | rests quiet =>
    exact .rests fun act member => quiet act (parts ▸ List.mem_append_left _ member)
  | last fits quiet =>
    cases front with
    | nil => exact .rests nofun
    | cons act later =>
      obtain ⟨rfl, rfl⟩ := List.cons.inj parts
      exact .last fits fun act member => quiet act (List.mem_append_left _ member)
  | feeds feeds later ih =>
    cases front with
    | nil => exact .rests nofun
    | cons act rest =>
      obtain ⟨rfl, rfl⟩ := List.cons.inj parts
      exact .feeds feeds (ih rfl)

end Act

section Portioned

variable {kind : Container.Kind} {whole fit form : Bytes → Prop} {visited : List Nat}
  {state : Output × Medium}

theorem Operation.data_of_quiet {operation : Operation}
    (quiet : (Act.ask operation).Feeds kind fun _ => False) : operation.data = [] := by
  cases operation with
  | append data => exact quiet.elim
  | _ => rfl

theorem Operation.aims_of_feeds {operation : Operation} (feeds : (Act.ask operation).Feeds kind form)
    {policy : CutPolicy} (aims : policy.Aims kind) : (operation.policy policy).Aims kind := by
  cases operation with
  | setPolicy other family videoPid => exact .inl feeds
  | _ => exact aims

theorem Operation.limits_of_feeds {operation : Operation} (feeds : (Act.ask operation).Feeds kind form)
    (limit : Nat) (same : operation = .setRingLimit limit) : limit = 0 := by
  subst same
  exact feeds.elim

theorem storage_leave (state : Output × Medium) : (Act.leave.perform state).2.storage = state.2.storage := by
  simp only [Act.perform]
  split <;> rfl

theorem Going.perform (going : Going kind state) {act : Act} (feeds : act.Feeds kind form) :
    Going kind (act.perform state) := by
  obtain ⟨sound, aims⟩ := going
  obtain ⟨output, medium⟩ := state
  cases act with
  | ask operation =>
    obtain ⟨middle, force, leads⟩ := sound.leads operation
    refine ⟨sound.perform operation (Operation.limits_of_feeds feeds), ?_⟩
    rw [Act.perform, leads.policy]
    exact Operation.aims_of_feeds feeds aims
  | accept => exact ⟨sound.congr rfl rfl rfl, aims⟩
  | conclude => exact ⟨sound.congr rfl rfl rfl, aims⟩
  | writeAll =>
    have policy : (output.flushAll medium).1.policy = output.policy := (frame_flushAll output medium).policy
    exact ⟨sound.written.1, policy.symm ▸ aims⟩
  | shut =>
    have policy : (output.closeDestination medium).1.policy = output.policy :=
      (frame_closeDestination output medium).policy
    exact ⟨sound.closeDestination.1.congr rfl rfl rfl, policy.symm ▸ aims⟩
  | leave => exact ⟨(storage_leave (output, medium)).symm ▸ sound, aims⟩

theorem Portioned.operation (portioned : Portioned kind whole fit visited state)
    (parts : ∀ policy : CutPolicy, policy.Aims kind → Parts whole fit policy) (operation : Operation) :
    let after := operation.perform state
    ∃ middle, Portions whole fit (visited ++ after.1.file?.toList) middle ∧
      Adds operation.data middle after := by
  obtain ⟨middle, force, leads⟩ := portioned.sound.leads operation
  refine ⟨middle, ?_, leads.adds⟩
  have asking : Portions whole fit visited (operation.asking state.1, state.2) ∧
      (operation.asking state.1).policy = state.1.policy := by
    obtain ⟨request, same⟩ := operation.asking_eq state.1
    rw [same]
    exact ⟨⟨portioned.portions.listed, portioned.portions.held, portioned.portions.waiting,
      portioned.portions.continues⟩, rfl⟩
  rw [leads.adds.file]
  exact asking.1.course (asking.2 ▸ parts _ portioned.aims) leads.course

theorem Portioned.rests (portioned : Portioned kind whole fit visited state)
    (parts : ∀ policy : CutPolicy, policy.Aims kind → Parts whole fit policy) {act : Act}
    (quiet : act.Feeds kind fun _ => False) :
    Portioned kind whole fit (visited ++ (act.perform state).1.file?.toList) (act.perform state) := by
  refine ⟨portioned.perform quiet, ?_⟩
  have still {after : Output × Medium} (adds : Adds [] state after) :
      Portions whole fit (visited ++ after.1.file?.toList) after :=
    (portioned.portions.adds adds).more
  obtain ⟨output, medium⟩ := state
  cases act with
  | ask operation =>
    obtain ⟨middle, portions, adds⟩ := portioned.operation parts operation
    rw [Operation.data_of_quiet quiet] at adds
    exact portions.adds adds
  | accept => exact still ⟨rfl, rfl, rfl, (List.append_nil _).symm, rfl⟩
  | conclude => exact still ⟨rfl, rfl, rfl, (List.append_nil _).symm, rfl⟩
  | writeAll => exact (portioned.portions.written (parts _ portioned.aims) portioned.sound.written.2).more
  | shut =>
    obtain ⟨-, same⟩ := portioned.sound.closeDestination
    have closed : (output.closeDestination medium).1.file? = none ∧
        (output.closeDestination medium).1.buffer = output.buffer := by
      unfold closeDestination
      split
      · next shut => exact ⟨congrArg (Option.map _) shut, rfl⟩
      · exact ⟨rfl, rfl⟩
    refine .more ⟨fun id here => ?_, fun id member => ?_, ?_, fun _ id here => ?_⟩
    · cases closed.1.symm.trans here
    · exact (same id).symm ▸ portioned.portions.held id member
    · exact (congrArg Buffer.content closed.2).symm ▸ portioned.portions.waiting
    · cases closed.1.symm.trans here
  | leave => exact still ⟨rfl, rfl, rfl, (List.append_nil _).symm, storage_leave (output, medium)⟩

theorem Portioned.append (portioned : Portioned kind whole whole visited state)
    (parts : ∀ policy : CutPolicy, policy.Aims kind → Parts whole whole policy ∧ Parts whole fit policy)
    {data : Bytes} (fits : fit data) :
    let after := (Operation.append data).perform state
    Portioned kind whole fit (visited ++ after.1.file?.toList) after := by
  obtain ⟨middle, portions, adds⟩ :=
    portioned.operation (fun policy aims => (parts policy aims).1) (.append data)
  have feeds : (Act.ask (.append data)).Feeds kind fit := fits
  exact ⟨portioned.perform feeds, portions.extend (parts _ portioned.aims).2 fits adds⟩

theorem Portioned.quiet {acts : List Act} (portioned : Portioned kind whole fit visited state)
    (parts : ∀ policy : CutPolicy, policy.Aims kind → Parts whole fit policy)
    (quiet : ∀ act ∈ acts, act.Rests) :
    Portioned kind whole fit (visited ++ Act.files acts state) (Act.after acts state) := by
  induction acts generalizing state visited with
  | nil =>
    rw [Act.files, List.append_nil]
    exact portioned
  | cons act later ih =>
    rw [Act.files, ← List.append_assoc]
    exact ih (portioned.rests parts (quiet act (List.mem_cons_self ..) kind))
      fun other member => quiet other (List.mem_cons_of_mem _ member)

theorem Portioned.covered (portioned : Portioned kind whole whole visited state) {policy : CutPolicy}
    (parts : Parts whole fit policy) : Portioned kind whole fit visited state where
  toGoing := portioned.toGoing
  portions :=
    { listed := portioned.portions.listed
      held := fun id member => parts.covers (portioned.portions.held id member)
      waiting := parts.covers portioned.portions.waiting
      continues := portioned.portions.continues }

theorem portioned_start {φ : Type} (setup : Session.Setup φ) (recording : Nat) {medium : Medium}
    (opens : setup.opener.Faultless) (stored : medium.storage.Faultless)
    (ready : medium.storage.Ready setup.destination)
    (fresh : medium.storage.content setup.destination.file = []) (empty : whole []) :
    Portioned kind whole whole [setup.destination.file] (setup.newOutput recording, medium) where
  sound := ⟨rfl, stored, opens, fun _ here => Option.some.inj here ▸ ready⟩
  aims := .inr rfl
  portions :=
    { listed := fun _ here => List.mem_singleton.mpr (Option.some.inj here).symm
      held := fun id member => by
        rw [List.mem_singleton.mp member, fresh]
        exact empty
      waiting := empty
      continues := fun filled => absurd rfl filled }

theorem Portioned.run {acts : List Act} (portioned : Portioned kind whole whole visited state)
    (parts : ∀ policy : CutPolicy, policy.Aims kind → Parts whole whole policy ∧ Parts whole fit policy)
    (recorded : Act.Recorded kind whole fit acts) :
    Portioned kind whole fit (visited ++ Act.files acts state) (Act.after acts state) := by
  induction recorded generalizing state visited with
  | rests quiet =>
    exact (portioned.covered (parts _ portioned.aims).2).quiet (fun policy aims => (parts policy aims).2) quiet
  | last fits quiet =>
    rw [Act.files, ← List.append_assoc]
    exact (portioned.append parts fits).quiet (fun policy aims => (parts policy aims).2) quiet
  | feeds feeds later ih =>
    rw [Act.files, ← List.append_assoc]
    refine ih ?_
    rcases feeds.append_or_rests with ⟨data, rfl, form⟩ | quiet
    · exact portioned.append (fun policy aims => ⟨(parts policy aims).1, (parts policy aims).1⟩) form
    · exact portioned.rests (fun policy aims => (parts policy aims).1) quiet

end Portioned

end Output

end MpegRecorder
