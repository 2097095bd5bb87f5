import MpegRecorder.Proofs.Engine.Portions
import MpegRecorder.Proofs.Output.Granted
import MpegRecorder.Proofs.Output.Portions
import MpegRecorder.Proofs.Pack.Boundary

/-!
Where program streams are parted. A search takes every start code that is followed by an entry for the start of
a pack, so it parts between two packs or in front of a start code that stands in the bytes of one. If packs
carry no start code, it parts between packs only.
-/

namespace MpegRecorder

namespace Pack

/-- A pack that carries bytes which look like the start of another one. -/
def Imitates (pack : Bytes) : Prop :=
  startCode <:+: pack.drop 1

structure Plain (pack : Bytes) : Prop where
  wellFormed : WellFormed pack
  single : ¬ Imitates pack

/-- Packs in full, and the end code behind them or nothing. -/
def Closed (piece : Bytes → Prop) (data : Bytes) : Prop :=
  ∃ (packs : List Bytes) (tail : Bytes), packs.flatten ++ tail = data ∧ (∀ pack ∈ packs, piece pack) ∧
    (tail = [] ∨ tail = endCode)

/-- Where a row of packs is parted: between two of them, or in front of a start code inside of one. -/
inductive Parting (packs : List Bytes) : Nat → Prop where
  | between {front behind : List Bytes} (parts : packs = front ++ behind) :
    Parting packs front.flatten.length
  | inside {front behind : List Bytes} {pack : Bytes} {offset : Nat} (parts : packs = front ++ pack :: behind)
      (inner : 0 < offset) (within : offset < pack.length) (stands : startCode <+: pack.drop offset) :
    Parting packs (front.flatten.length + offset)

variable {piece : Bytes → Prop} {packs : List Bytes} {tail : Bytes} {cut : Nat}

theorem imitates_of_stands {pack : Bytes} {offset : Nat} (inner : 0 < offset)
    (stands : startCode <+: pack.drop offset) : Imitates pack := by
  have deeper : pack.drop offset = (pack.drop 1).drop (offset - 1) := by
    rw [List.drop_drop]
    congr 1
    omega
  rw [deeper] at stands
  exact stands.isInfix.trans (List.drop_suffix ..).isInfix

theorem closed_of_row {data : Bytes} (row : Row piece data) : Closed piece data := by
  obtain ⟨packs, rfl, all⟩ := row
  exact ⟨packs, [], List.append_nil _, all, .inl rfl⟩

theorem Closed.behind {data more : Bytes} (row : Row piece data) (closed : Closed piece more) :
    Closed piece (data ++ more) := by
  obtain ⟨packs, rfl, all⟩ := row
  obtain ⟨others, tail, rfl, each, ends⟩ := closed
  refine ⟨packs ++ others, tail, ?_, List.forall_mem_append.mpr ⟨all, each⟩, ends⟩
  rw [List.flatten_append, List.append_assoc]

theorem Closed.mono {other : Bytes → Prop} {data : Bytes} (closed : Closed piece data)
    (covers : ∀ pack, piece pack → other pack) : Closed other data := by
  obtain ⟨packs, tail, whole, all, ends⟩ := closed
  exact ⟨packs, tail, whole, fun pack member => covers pack (all pack member), ends⟩

end Pack

theorem Container.Kind.Ended.closed {data : Bytes} (ended : Container.Kind.program.Ended data) :
    Pack.Closed Pack.WellFormed data := by
  rcases ended with row | ⟨-, packs, ⟨all, rfl, each⟩, rfl⟩
  · exact Pack.closed_of_row row
  · exact ⟨all, _, rfl, each, .inr rfl⟩

namespace Output

open Pack

variable {packs : List Bytes} {tail : Bytes} {policy : CutPolicy} {cut : Nat}

theorem parting_of_found (aims : policy.Aims .program) (wellFormed : ∀ pack ∈ packs, WellFormed pack)
    (ends : tail = [] ∨ tail = endCode) (found : policy.findCut (packs.flatten ++ tail) = some cut) :
    Parting packs cut := by
  have start (zero : some 0 = some cut) : Parting packs cut := by
    cases zero
    exact .between (List.nil_append packs).symm
  unfold CutPolicy.findCut at found
  split at found
  · exact start found
  · exact start found
  · next known kind _ =>
    rcases aims with program | unknown
    · cases program.symm.trans kind
    · cases unknown.symm.trans known
  · obtain ⟨place, same, stands⟩ := Bytes.searchFrom_stands found
    rw [Nat.zero_add] at same
    subst same
    obtain ⟨front, pack, behind, offset, rfl, rfl, within, stands⟩ :=
      place_of_startCode wellFormed ends stands
    cases offset with
    | zero => exact .between rfl
    | succ offset => exact .inside rfl (Nat.succ_pos offset) within stands

theorem parted_of_found (aims : policy.Aims .program) (plain : ∀ pack ∈ packs, Plain pack)
    (ends : tail = [] ∨ tail = endCode) (found : policy.findCut (packs.flatten ++ tail) = some cut) :
    ∃ front behind, packs = front ++ behind ∧ cut = front.flatten.length := by
  have parting := parting_of_found aims (fun pack member => (plain pack member).wellFormed) ends found
  cases parting with
  | between parts => exact ⟨_, _, parts, rfl⟩
  | inside parts inner within stands =>
    have member := parts ▸ List.mem_append_right _ (List.mem_cons_self ..)
    exact absurd (imitates_of_stands inner stands) (plain _ member).single

theorem joins_closed (piece : Bytes → Prop) : Joins (Row piece) (Closed piece) :=
  ⟨.nil, closed_of_row, .behind⟩

theorem joins_row (piece : Bytes → Prop) : Joins (Row piece) (Row piece) :=
  ⟨.nil, id, .append⟩

theorem parts_program (aims : policy.Aims .program) :
    Parts (Row Plain) (Row Plain) policy ∧ Parts (Row Plain) (Closed Plain) policy := by
  constructor
  · refine ⟨joins_row _, ?_⟩
    rintro view cut ⟨packs, rfl, plain⟩ found
    rw [← List.append_nil packs.flatten] at found
    obtain ⟨front, behind, rfl, rfl⟩ := parted_of_found aims plain (.inl rfl) found
    obtain ⟨first, later⟩ := List.forall_mem_append.mp plain
    rw [List.flatten_append, List.take_left, List.drop_left]
    exact ⟨⟨front, rfl, first⟩, behind, rfl, later⟩
  · refine ⟨joins_closed _, ?_⟩
    rintro view cut ⟨packs, tail, rfl, plain, ends⟩ found
    obtain ⟨front, behind, rfl, rfl⟩ := parted_of_found aims plain ends found
    obtain ⟨first, later⟩ := List.forall_mem_append.mp plain
    rw [List.flatten_append, List.append_assoc, List.take_left, List.drop_left]
    exact ⟨⟨front, rfl, first⟩, behind, tail, rfl, later, ends⟩

namespace Act

def data : Act → Bytes
  | ask operation => operation.data
  | _ => []

def HandsPlain (acts : List Act) : Prop :=
  ∀ data, .ask (.append data) ∈ acts → Closed Plain data

variable {acts : List Act} {data : Bytes}

theorem HandsPlain.row (handed : HandsPlain acts) (member : .ask (.append data) ∈ acts)
    (row : Row WellFormed data) : Row Plain data := by
  obtain ⟨packs, tail, whole, plain, ends⟩ := handed data member
  obtain ⟨others, same, each⟩ := row
  rw [← same, ← List.append_nil others.flatten] at whole
  have wellFormed : ∀ pack ∈ packs, WellFormed pack := fun pack there => (plain pack there).wellFormed
  obtain ⟨rfl, -⟩ := packs_unique wellFormed each ends (.inl rfl) whole
  exact ⟨packs, same, plain⟩

end Act

/-- A recording of the kind without faults, of which bytes of the form wait. -/
structure Backlog (kind : Container.Kind) (form : Bytes → Prop) (state : Output × Medium) : Prop
    extends Going kind state where
  waiting : form state.1.buffer.content

section Backlog

variable {kind : Container.Kind} {whole fit form : Bytes → Prop} {state : Output × Medium} {act : Act}

theorem Course.waiting {force : Bool} {events : List Event} {before after : Output × Medium}
    (course : Course force events before after) (granted : Granted events) :
    after.1.buffer.content = before.1.buffer.content ∨ after.1.buffer.content = [] := by
  cases course with
  | stands same => exact .inl (same ▸ rfl)
  | writes written => exact .inr written.waiting
  | searches searched shown =>
    cases searched with
    | rests same => exact .inl (same ▸ rfl)
    | misses _ _ _ _ _ written => exact .inr written.waiting
    | refused _ _ _ happened => exact absurd (shown _ happened) (granted _ _)
    | moves _ _ _ waiting => exact .inr waiting

theorem Going.waiting (going : Going kind state) (granted : Granted (act.events state)) :
    ∃ kept, (kept = state.1.buffer.content ∨ kept = []) ∧
      (act.perform state).1.buffer.content = kept ++ act.data := by
  obtain ⟨output, medium⟩ := state
  have stays : ∃ kept, (kept = output.buffer.content ∨ kept = []) ∧ output.buffer.content = kept ++ [] :=
    ⟨_, .inl rfl, (List.append_nil _).symm⟩
  cases act with
  | ask operation =>
    obtain ⟨middle, force, leads⟩ := going.sound.leads operation
    obtain ⟨request, asking⟩ := operation.asking_eq output
    have course := leads.course
    rw [asking] at course
    exact ⟨middle.1.buffer.content, course.waiting granted, leads.adds.waiting⟩
  | accept => exact stays
  | conclude => exact stays
  | writeAll => exact ⟨[], .inr rfl, going.sound.written.2.waiting⟩
  | shut =>
    have same : (output.closeDestination medium).1.buffer = output.buffer := by
      unfold closeDestination
      split <;> rfl
    simp only [Act.perform, same]
    exact stays
  | leave => exact stays

theorem Backlog.step (backlog : Backlog kind whole state) (feeds : act.Feeds kind form) (alone : fit act.data)
    (joins : ∀ data, whole data → fit (data ++ act.data)) (granted : Granted (act.events state)) :
    Backlog kind fit (act.perform state) := by
  refine ⟨backlog.perform feeds, ?_⟩
  obtain ⟨kept, same | none, content⟩ := backlog.toGoing.waiting granted
  · rw [content, same]
    exact joins _ backlog.waiting
  · rw [content, none]
    exact alone

theorem Backlog.append (backlog : Backlog kind whole state) (joins : Joins whole fit) {data : Bytes}
    (fits : fit data) (granted : Granted ((Operation.append data).events state)) :
    Backlog kind fit ((Operation.append data).perform state) := by
  have feeds : (Act.ask (.append data)).Feeds kind fit := fits
  exact backlog.step feeds fits (fun _ waiting => joins.append waiting fits) granted

theorem Backlog.rests (backlog : Backlog kind fit state) (empty : fit [])
    (quiet : act.Feeds kind fun _ => False) (granted : Granted (act.events state)) :
    Backlog kind fit (act.perform state) := by
  have nothing : act.data = [] := by
    cases act with
    | ask operation => exact Operation.data_of_quiet quiet
    | _ => rfl
  refine backlog.step quiet (nothing ▸ empty) (fun data waiting => ?_) granted
  rw [nothing, List.append_nil]
  exact waiting

theorem Backlog.quiet {acts : List Act} (backlog : Backlog kind fit state) (empty : fit [])
    (quiet : ∀ act ∈ acts, act.Rests) (granted : Granted (Act.history acts state)) :
    Backlog kind fit (Act.after acts state) := by
  induction acts generalizing state with
  | nil => exact backlog
  | cons act later ih =>
    obtain ⟨now, rest⟩ := granted_append.mp granted
    exact ih (backlog.rests empty (quiet act (List.mem_cons_self ..) kind) now)
      (fun other member => quiet other (List.mem_cons_of_mem _ member)) rest

theorem Backlog.run {acts : List Act} (backlog : Backlog kind whole state) (joins : Joins whole whole)
    (last : Joins whole fit) (recorded : Act.Recorded kind whole fit acts)
    (granted : Granted (Act.history acts state)) : Backlog kind fit (Act.after acts state) := by
  have empty := last.covers last.empty
  induction recorded generalizing state with
  | rests quiet => exact Backlog.quiet ⟨backlog.toGoing, last.covers backlog.waiting⟩ empty quiet granted
  | last fits quiet =>
    obtain ⟨now, rest⟩ := granted_append.mp granted
    exact (backlog.append last fits now).quiet empty quiet rest
  | feeds feeds _ ih =>
    obtain ⟨now, rest⟩ := granted_append.mp granted
    refine ih ?_ rest
    rcases feeds.append_or_rests with ⟨data, rfl, form⟩ | quiet
    · exact backlog.append joins form now
    · exact backlog.rests joins.empty quiet now

theorem Backlog.parting (backlog : Backlog .program (Closed WellFormed) state) {operation : Operation}
    (moved : state.1.switches < (operation.perform state).1.switches) :
    ∃ packs tail cut id, packs.flatten ++ tail = state.1.buffer.content ∧
      (∀ pack ∈ packs, WellFormed pack) ∧ (tail = [] ∨ tail = endCode) ∧
      Parting packs cut ∧ HandedOver cut state (operation.perform state) id := by
  obtain ⟨middle, force, leads⟩ := backlog.sound.leads operation
  obtain ⟨request, cut, id, -, -, chosen, handover⟩ := leads.moves moved
  obtain ⟨packs, tail, whole, all, ends⟩ := backlog.waiting
  obtain ⟨asked, asking⟩ := operation.asking_eq state.1
  rw [asking] at chosen
  refine ⟨packs, tail, cut, id, whole, all, ends, ?_, handover⟩
  rcases chosen with found | ⟨rfl, -⟩
  · rw [← whole] at found
    exact parting_of_found backlog.aims all ends found
  · exact .between (List.nil_append packs).symm

end Backlog

end Output

end MpegRecorder
