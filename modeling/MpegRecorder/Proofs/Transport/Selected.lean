import Mathlib.Data.List.Induction
import MpegRecorder.Transport.Probe
import MpegRecorder.Transport.Synthetic

/-!
What a probe has selected, told from the packets alone. The association table in force is the last one
that could be read and differed in version from the one in force before it; the layout of a program is the
last one that came since then on a packet identifier which that table lists. Whatever packets come, in
whatever order, the selected program is the choice among these layouts.
-/

namespace MpegRecorder.Transport

namespace Packet

def section? (packet : Packet) : Option Bytes :=
  if packet.unitStart then packet.tableSection else none

def association? (packet : Packet) : Option Association :=
  if packet.pid = associationPid then
    packet.section?.bind fun data => (Association.parse data).toOption
  else none

def layout? (announced : List ProgramEntry) (packet : Packet) : Option Program :=
  if announced.any fun entry => entry.mapPid == packet.pid then
    (packet.section?.bind fun data => (ProgramMap.parse data).toOption).map fun table =>
      ⟨table.number, packet.pid, table.clockPid, table.streams⟩
  else none

end Packet

def follow (current : Option (Association × List Packet)) (packet : Packet) :
    Option (Association × List Packet) :=
  let still := current.map fun (table, since) => (table, since ++ [packet])
  match packet.association? with
  | some table =>
    if current.map (·.1.version) = some table.version then still else some (table, [])
  | none => still

/-- The association table in force after a row of packets, and the packets since it came. -/
def inForce (packets : List Packet) : Option (Association × List Packet) :=
  packets.foldl follow none

def listing (packets : List Packet) : List ProgramEntry :=
  match inForce packets with
  | some (table, _) => table.programs
  | none => []

def received (packets : List Packet) : List Program :=
  match inForce packets with
  | some (table, since) => since.filterMap (Packet.layout? table.programs)
  | none => []

def latest (packets : List Packet) (number : UInt16) : Option Program :=
  ((received packets).filter fun program => program.number == number).getLast?

/-- The program to select when `announced` are listed and `known` gives the layouts that came. -/
def Selection.choice (selection : Selection) (announced : List ProgramEntry)
    (known : UInt16 → Option Program) : Option Program :=
  match selection with
  | .number wanted => known wanted
  | .position place =>
    if place = 0 then none
    else announced[place - 1]?.bind fun entry => known entry.number
  | .automatic =>
    match announced.find? fun entry => (known entry.number).any fun program => program.video?.isSome with
    | some entry => known entry.number
    | none =>
      if announced.all fun entry => (known entry.number).isSome then
        announced.head?.bind fun entry => known entry.number
      else none

theorem Selection.choice_unknown (selection : Selection) (announced : List ProgramEntry) :
    selection.choice announced (fun _ => none) = none := by
  cases selection with
  | number wanted => rfl
  | position place => simp [choice]
  | automatic =>
    simp only [choice, Option.any_none, Option.isSome_none]
    split
    · rfl
    · simp

theorem Probe.choose_eq (probe : Probe) :
    probe.choose = probe.selection.choice probe.announced probe.layout? := by
  unfold choose Selection.choice
  cases probe.selection with
  | number wanted => rfl
  | position place =>
    cases place with
    | zero => rfl
    | succ index => rfl
  | automatic =>
    simp only [List.find?_filterMap]
    cases found : probe.announced.find? fun entry =>
        (probe.layout? entry.number).any fun program => program.video?.isSome with
    | none => rfl
    | some entry =>
      have hit := List.find?_some found
      obtain ⟨program, known, -⟩ := Option.any_eq_true _ _ |>.mp hit
      simp only [Option.bind_some, known]

theorem Section.head?_of_body {table : UInt8} {least : Nat} {data content : Bytes}
    (read : Section.body table least data = .ok content) : data.head? = some table := by
  cases data with
  | nil => cases read
  | cons first rest =>
    unfold Section.body at read
    split at read
    · cases read
    · split at read
      · cases read
      · next same => exact congrArg some (Decidable.not_not.mp same)

theorem Association.head?_of_parse {data : Bytes} {table : Association}
    (read : Association.parse data = .ok table) : data.head? = some Association.tableId := by
  unfold Association.parse at read
  split at read
  · cases read
  · next body => exact Section.head?_of_body body

theorem ProgramMap.head?_of_parse {data : Bytes} {table : ProgramMap}
    (read : ProgramMap.parse data = .ok table) : data.head? = some ProgramMap.tableId := by
  unfold ProgramMap.parse at read
  split at read
  · cases read
  · next body => exact Section.head?_of_body body

section Sections

variable {packet : Packet} {data : Bytes}

theorem Packet.association?_of_section (carries : packet.section? = some data)
    (error : packet.pid ≠ associationPid ∨ data.head? ≠ some Association.tableId) :
    packet.association? = none := by
  unfold Packet.association?
  split
  · next same =>
    rw [carries, Option.bind_some]
    cases read : Association.parse data with
    | error refused => rfl
    | ok table => exact absurd (Association.head?_of_parse read) (error.resolve_left (absurd same))
  · rfl

theorem Packet.layout?_of_section (carries : packet.section? = some data)
    {announced : List ProgramEntry}
    (error : data.head? ≠ some ProgramMap.tableId
      ∨ (announced.any fun entry => entry.mapPid == packet.pid) = false) :
    packet.layout? announced = none := by
  unfold Packet.layout?
  split
  · next listed =>
    rw [carries, Option.bind_some]
    cases read : ProgramMap.parse data with
    | error refused => rfl
    | ok table =>
      have unlisted := error.resolve_left fun other => other (ProgramMap.head?_of_parse read)
      rw [listed] at unlisted
      cases unlisted
  · rfl

theorem Packet.layout?_of_association {announced : List ProgramEntry} {table : Association}
    (brings : packet.association? = some table) : packet.layout? announced = none := by
  unfold Packet.association? at brings
  split at brings
  · obtain ⟨data, carries, read⟩ := Option.bind_eq_some_iff.mp brings
    apply Packet.layout?_of_section carries
    apply Or.inl
    cases parsed : Association.parse data with
    | error refused =>
      rw [parsed] at read
      cases read
    | ok other =>
      rw [Association.head?_of_parse parsed]
      decide
  · cases brings

end Sections

namespace Probe

variable (probe : Probe) (packet : Packet)

def take (association : Option Association) (layout : Option Program) : Probe :=
  match association, layout with
  | some table, _ =>
    if probe.version = some table.version then probe
    else { probe with
      version := some table.version, announced := table.programs, layouts := [], selected := none }
  | none, some program =>
    if probe.layout? program.number = some program then probe
    else { probe.putLayout program with selected := (probe.putLayout program).choose }
  | none, none => probe

theorem pushPacket_eq :
    probe.pushPacket packet = probe.take packet.association? (packet.layout? probe.announced) := by
  cases carries : packet.section? with
  | none =>
    have nothing : packet.association? = none ∧ packet.layout? probe.announced = none := by
      simp [Packet.association?, Packet.layout?, carries]
    rw [nothing.1, nothing.2, pushPacket]
    unfold Packet.section? at carries
    split
    · next starts =>
      rw [if_pos starts] at carries
      rw [carries]
      rfl
    · rfl
  | some data =>
    have parts : packet.unitStart = true ∧ packet.tableSection = some data := by
      unfold Packet.section? at carries
      split at carries
      · next starts => exact ⟨starts, carries⟩
      · cases carries
    -- The probe tests for one table after the other, and each test rules the other table out.
    obtain ⟨starts, holds⟩ := parts
    rw [pushPacket, if_pos starts, holds]
    dsimp only
    split
    · next opens =>
      obtain ⟨pid, head⟩ := opens
      have noLayout : packet.layout? probe.announced = none := by
        apply Packet.layout?_of_section carries
        apply Or.inl
        rw [head]
        decide
      rw [noLayout, Packet.association?, if_pos pid, carries, Option.bind_some, onAssociation]
      cases Association.parse data with
      | error refused => rfl
      | ok table => rfl
    · next other =>
      have noTable : packet.association? = none :=
        Packet.association?_of_section carries (not_and_or.mp other)
      rw [noTable]
      split
      · next opens =>
        obtain ⟨head, listed⟩ := opens
        change (probe.announced.any fun entry => entry.mapPid == packet.pid) = true at listed
        rw [Packet.layout?, if_pos listed, carries, Option.bind_some, onProgramMap]
        cases ProgramMap.parse data with
        | error refused => rfl
        | ok table => rfl
      · next neither =>
        have noLayout : packet.layout? probe.announced = none := by
          apply Packet.layout?_of_section carries
          rw [← Bool.not_eq_true]
          exact not_and_or.mp neither
        rw [noLayout]
        rfl

end Probe

def Repeats (packets : List Packet) (packet : Packet) : Prop :=
  ∀ table, packet.association? = some table →
    (inForce packets).map (·.1.version) = some table.version

section Packets

variable {packets : List Packet} {packet : Packet} {table : Association}

theorem inForce_concat (packets : List Packet) (packet : Packet) :
    inForce (packets ++ [packet]) = follow (inForce packets) packet := by
  rw [inForce, List.foldl_append]
  rfl

theorem inForce_of_new (brings : packet.association? = some table)
    (differs : (inForce packets).map (·.1.version) ≠ some table.version) :
    inForce (packets ++ [packet]) = some (table, []) := by
  rw [inForce_concat, follow, brings]
  exact if_neg differs

theorem inForce_of_repeats (repeats : Repeats packets packet) :
    inForce (packets ++ [packet]) =
      (inForce packets).map fun (table, since) => (table, since ++ [packet]) := by
  rw [inForce_concat, follow]
  cases brings : packet.association? with
  | none => rfl
  | some table => exact if_pos (repeats table brings)

theorem listing_of_repeats (repeats : Repeats packets packet) :
    listing (packets ++ [packet]) = listing packets := by
  unfold listing
  rw [inForce_of_repeats repeats]
  cases inForce packets with
  | none => rfl
  | some state => rfl

theorem received_of_repeats (repeats : Repeats packets packet) :
    received (packets ++ [packet]) =
      received packets ++ (packet.layout? (listing packets)).toList := by
  unfold received listing
  rw [inForce_of_repeats repeats]
  cases inForce packets with
  | none => rfl
  | some state =>
    show List.filterMap _ (state.2 ++ [packet]) = _
    rw [List.filterMap_append]
    cases layout : packet.layout? state.1.programs with
    | none => simp [layout]
    | some program => simp [layout]

theorem latest_of_new (brings : packet.association? = some table)
    (differs : (inForce packets).map (·.1.version) ≠ some table.version) :
    latest (packets ++ [packet]) = fun _ => none := by
  funext number
  rw [latest, received, inForce_of_new brings differs]
  rfl

theorem latest_of_unmapped (repeats : Repeats packets packet)
    (nothing : packet.layout? (listing packets) = none) :
    latest (packets ++ [packet]) = latest packets := by
  funext number
  rw [latest, received_of_repeats repeats, nothing, Option.toList_none, List.append_nil, latest]

theorem latest_of_mapped (repeats : Repeats packets packet) {program : Program}
    (brings : packet.layout? (listing packets) = some program) :
    latest (packets ++ [packet]) = fun number =>
      if program.number = number then some program else latest packets number := by
  funext number
  rw [latest, received_of_repeats repeats, brings, Option.toList_some, List.filter_append,
    List.getLast?_append]
  by_cases own : program.number = number
  · simp [own]
  · simp [own, latest]

end Packets

structure Probe.Informed (wanted : Selection) (packets : List Packet) (probe : Probe) : Prop where
  selection : probe.selection = wanted
  version : probe.version = (inForce packets).map (·.1.version)
  listed : probe.announced = listing packets
  layouts : probe.layout? = latest packets
  chosen : probe.selected = wanted.choice (listing packets) (latest packets)

namespace Probe.Informed

variable {wanted : Selection} {packets : List Packet} {probe : Probe}

theorem new (wanted : Selection) : Informed wanted [] (.new wanted) where
  selection := rfl
  version := rfl
  listed := rfl
  layouts := rfl
  chosen := (wanted.choice_unknown []).symm

theorem renew (informed : probe.Informed wanted packets) {packet : Packet} {table : Association}
    (brings : packet.association? = some table)
    (differs : (inForce packets).map (·.1.version) ≠ some table.version) :
    { probe with
      version := some table.version, announced := table.programs, layouts := [], selected := none
    }.Informed wanted (packets ++ [packet]) where
  selection := informed.selection
  version := by rw [inForce_of_new brings differs]; rfl
  listed := by rw [listing, inForce_of_new brings differs]
  layouts := by rw [latest_of_new brings differs]; rfl
  chosen := by rw [latest_of_new brings differs, Selection.choice_unknown]

theorem still (informed : probe.Informed wanted packets) {packet : Packet}
    (repeats : Repeats packets packet) (same : latest (packets ++ [packet]) = latest packets) :
    probe.Informed wanted (packets ++ [packet]) where
  selection := informed.selection
  version := by
    rw [informed.version, inForce_of_repeats repeats, Option.map_map]
    rfl
  listed := by rw [informed.listed, listing_of_repeats repeats]
  layouts := by rw [informed.layouts, same]
  chosen := by rw [informed.chosen, listing_of_repeats repeats, same]

theorem renewLayout (informed : probe.Informed wanted packets) {packet : Packet} {program : Program}
    (repeats : Repeats packets packet)
    (brings : packet.layout? (listing packets) = some program) :
    { probe.putLayout program with selected := (probe.putLayout program).choose }.Informed wanted
      (packets ++ [packet]) := by
  have known : (probe.putLayout program).layout? = latest (packets ++ [packet]) := by
    rw [latest_of_mapped repeats brings, ← informed.layouts]
    funext number
    exact probe.layout?_putLayout program number
  have listed : probe.announced = listing (packets ++ [packet]) := by
    rw [informed.listed, listing_of_repeats repeats]
  constructor
  · exact informed.selection
  · rw [inForce_of_repeats repeats, Option.map_map]
    exact informed.version
  · exact listed
  · exact known
  · show (probe.putLayout program).choose = _
    rw [choose_eq, known, ← listed, ← informed.selection]
    rfl

theorem push (informed : probe.Informed wanted packets) (packet : Packet) :
    (probe.pushPacket packet).Informed wanted (packets ++ [packet]) := by
  rw [pushPacket_eq, informed.listed]
  -- Only another version of the table, or another layout, changes what the probe knows.
  cases brings : packet.association? with
  | some table =>
    by_cases same : probe.version = some table.version
    · have repeats : Repeats packets packet := by
        intro other another
        rw [brings] at another
        cases another
        rw [← informed.version, same]
      show (if _ then _ else _ : Probe).Informed wanted _
      rw [if_pos same]
      exact informed.still repeats (latest_of_unmapped repeats (Packet.layout?_of_association brings))
    · show (if _ then _ else _ : Probe).Informed wanted _
      rw [if_neg same]
      exact informed.renew brings (informed.version ▸ same)
  | none =>
    have repeats : Repeats packets packet := by
      intro table another
      rw [brings] at another
      cases another
    cases layout : packet.layout? (listing packets) with
    | none => exact informed.still repeats (latest_of_unmapped repeats layout)
    | some program =>
      by_cases same : probe.layout? program.number = some program
      · show (if _ then _ else _ : Probe).Informed wanted _
        rw [if_pos same]
        apply informed.still repeats
        rw [latest_of_mapped repeats layout]
        funext number
        split
        · next own => rw [← own, ← informed.layouts, same]
        · rfl
      · show (if _ then _ else _ : Probe).Informed wanted _
        rw [if_neg same]
        exact informed.renewLayout repeats layout

theorem foldl (packets : List Packet) :
    (packets.foldl pushPacket (.new wanted)).Informed wanted packets := by
  induction packets using List.reverseRecOn with
  | nil => exact new wanted
  | append_singleton packets packet ih =>
    rw [List.foldl_append]
    exact ih.push packet

end Probe.Informed

/-- How a table is in force: one packet brought it when none of its version was, and none since another. -/
structure Brought (packets : List Packet) (table : Association) (since : List Packet) : Prop where
  came : ∃ before packet, packets = before ++ packet :: since ∧ packet.association? = some table
    ∧ (inForce before).map (·.1.version) ≠ some table.version
  lasts : ∀ packet ∈ since, ∀ other, packet.association? = some other → other.version = table.version

theorem brought_of_inForce {packets since : List Packet} {table : Association}
    (current : inForce packets = some (table, since)) : Brought packets table since := by
  induction packets using List.reverseRecOn generalizing since with
  | nil => cases current
  | append_singleton packets packet ih =>
    by_cases repeats : Repeats packets packet
    · rw [inForce_of_repeats repeats] at current
      obtain ⟨⟨old, earlier⟩, before, same⟩ := Option.map_eq_some_iff.mp current
      cases same
      obtain ⟨⟨front, first, split, brings, differs⟩, lasts⟩ := ih before
      constructor
      · exact ⟨front, first, by rw [split, List.append_assoc, List.cons_append], brings, differs⟩
      · intro later member other another
        rcases List.mem_append.mp member with within | last
        · exact lasts later within other another
        · rw [List.mem_singleton.mp last] at another
          have version := repeats other another
          rw [before] at version
          exact (Option.some.inj version).symm
    · obtain ⟨other, brings, differs⟩ := not_forall₂.mp repeats
      rw [inForce_of_new brings differs] at current
      cases current
      exact ⟨⟨packets, packet, rfl, brings, differs⟩, nofun⟩

theorem inForce_eq_none_iff {packets : List Packet} :
    inForce packets = none ↔ ∀ packet ∈ packets, packet.association? = none := by
  induction packets using List.reverseRecOn with
  | nil => exact ⟨fun _ => nofun, fun _ => rfl⟩
  | append_singleton packets packet ih =>
    rw [inForce_concat, follow, List.forall_mem_append, ← ih, List.forall_mem_singleton]
    cases packet.association? with
    | none => simp
    | some table =>
      dsimp only
      split
      · next version =>
        obtain ⟨state, current, -⟩ := Option.map_eq_some_iff.mp version
        simp [current]
      · simp

/--
Whatever packets a probe is given, its selected program is the choice among the latest layouts of the
programs that the table in force lists.
-/
theorem selected_eq_choice (wanted : Selection) (packets : List Packet) :
    (inForce packets = none ↔ ∀ packet ∈ packets, packet.association? = none)
      ∧ (∀ table since, inForce packets = some (table, since) → Brought packets table since)
      ∧ (packets.foldl Probe.pushPacket (.new wanted)).selected =
        wanted.choice (listing packets) (latest packets) :=
  ⟨inForce_eq_none_iff, fun _ _ => brought_of_inForce, (Probe.Informed.foldl packets).chosen⟩

theorem latest_eq_some {packets : List Packet} {number : UInt16} {program : Program}
    (known : latest packets number = some program) :
    program ∈ received packets ∧ program.number = number := by
  have member := List.mem_of_getLast? known
  rw [List.mem_filter, beq_iff_eq] at member
  exact member

theorem listed_of_received {packets : List Packet} {program : Program}
    (came : program ∈ received packets) :
    ∃ entry ∈ listing packets, entry.mapPid = program.mapPid := by
  unfold received at came
  unfold listing
  cases current : inForce packets with
  | none =>
    rw [current] at came
    cases came
  | some state =>
    rw [current] at came
    obtain ⟨packet, -, brings⟩ := List.mem_filterMap.mp came
    unfold Packet.layout? at brings
    split at brings
    · next listed =>
      obtain ⟨entry, member, same⟩ := List.any_eq_true.mp listed
      obtain ⟨table, -, rfl⟩ := Option.map_eq_some_iff.mp brings
      exact ⟨entry, member, beq_iff_eq.mp same⟩
    · cases brings

theorem Selection.choice_eq_some {wanted : Selection} {announced : List ProgramEntry}
    {known : UInt16 → Option Program} {program : Program}
    (chosen : wanted.choice announced known = some program) :
    (∃ number, wanted = .number number ∧ known number = some program)
      ∨ ∃ entry ∈ announced, known entry.number = some program := by
  cases wanted with
  | number wanted => exact .inl ⟨wanted, rfl, chosen⟩
  | position place =>
    apply Or.inr
    unfold choice at chosen
    dsimp only at chosen
    split at chosen
    · cases chosen
    · obtain ⟨entry, found, layout⟩ := Option.bind_eq_some_iff.mp chosen
      exact ⟨entry, List.mem_of_getElem? found, layout⟩
  | automatic =>
    apply Or.inr
    unfold choice at chosen
    dsimp only at chosen
    split at chosen
    · next entry found => exact ⟨entry, List.mem_of_find?_eq_some found, chosen⟩
    · split at chosen
      · obtain ⟨entry, first, layout⟩ := Option.bind_eq_some_iff.mp chosen
        exact ⟨entry, List.mem_of_head? first, layout⟩
      · cases chosen

/--
The selected program has the latest layout that came for its number, on a packet identifier that the table
in force lists. The table lists its number, unless the program was asked for by number; and it lists the
number with that packet identifier if every layout for the number came on the one listed for it.
-/
theorem selected_listed (wanted : Selection) (packets : List Packet) {program : Program}
    (selected : (packets.foldl Probe.pushPacket (.new wanted)).selected = some program) :
    latest packets program.number = some program
      ∧ (∃ entry ∈ listing packets, entry.mapPid = program.mapPid)
      ∧ (wanted = .number program.number ∨ ∃ entry ∈ listing packets, entry.number = program.number)
      ∧ ((∀ other ∈ received packets, other.number = program.number →
          ⟨other.number, other.mapPid⟩ ∈ listing packets) →
        ⟨program.number, program.mapPid⟩ ∈ listing packets) := by
  rw [(Probe.Informed.foldl packets).chosen] at selected
  have known : latest packets program.number = some program := by
    rcases Selection.choice_eq_some selected with ⟨number, -, known⟩ | ⟨entry, -, known⟩
    · rw [(latest_eq_some known).2, known]
    · rw [(latest_eq_some known).2, known]
  have came := (latest_eq_some known).1
  refine ⟨known, listed_of_received came, ?_, fun own => own program came rfl⟩
  rcases Selection.choice_eq_some selected with ⟨number, same, known⟩ | ⟨entry, member, known⟩
  · rw [same, (latest_eq_some known).2]
    exact .inl rfl
  · exact .inr ⟨entry, member, (latest_eq_some known).2.symm⟩

def readable (data : Bytes) : List Packet :=
  (data.wholeChunks packetSize).filterMap fun chunk => (Packet.parse chunk).toOption

def tables (version : UInt8) (entries : List ProgramEntry) : Bytes :=
  ((Synthetic.empty.payload associationPid true
      (0x00 :: Association.build 1 version entries)).payload 0x30 true
    (0x00 :: ProgramMap.build 9 0 0x31 [⟨.mpeg2Video, 0x31⟩])).bytes

theorem selected_listed_astray :
    ((readable (tables 0 [⟨1, 0x30⟩, ⟨9, 0x50⟩])).foldl Probe.pushPacket (.new .automatic)).selected =
        some ⟨9, 0x30, 0x31, [⟨.mpeg2Video, 0x31⟩]⟩
      ∧ ∃ entry ∈ listing (readable (tables 0 [⟨1, 0x30⟩, ⟨9, 0x50⟩])), entry.mapPid = 0x30 := by
  have selected : ((readable (tables 0 [⟨1, 0x30⟩, ⟨9, 0x50⟩])).foldl Probe.pushPacket
      (.new .automatic)).selected = some ⟨9, 0x30, 0x31, [⟨.mpeg2Video, 0x31⟩]⟩ := by
    decide +kernel
  exact ⟨selected, (selected_listed .automatic _ selected).2.1⟩

/-- A program is selected that the table does not list, and one that it lists elsewhere. -/
theorem selected_unlisted :
    let first := (Probe.new (.number 9)).push (tables 0 [⟨1, 0x30⟩, ⟨2, 0x40⟩])
    let second := first.push (tables 1 [⟨1, 0x30⟩, ⟨9, 0x50⟩])
    first.selected = some ⟨9, 0x30, 0x31, [⟨.mpeg2Video, 0x31⟩]⟩
      ∧ first.announced = [⟨1, 0x30⟩, ⟨2, 0x40⟩] ∧ ⟨9, 0x30⟩ ∉ first.announced
      ∧ second.selected = some ⟨9, 0x30, 0x31, [⟨.mpeg2Video, 0x31⟩]⟩
      ∧ second.announced = [⟨1, 0x30⟩, ⟨9, 0x50⟩] ∧ ⟨9, 0x30⟩ ∉ second.announced := by
  decide +kernel

end MpegRecorder.Transport
