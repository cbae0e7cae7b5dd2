import Mathlib
import TelephonyStateRegistry.Core.Frames
import TelephonyStateRegistry.Service.EntryPoints

/-!
# What a report tells

A report has a line for each time and state of the service, eight lines for each slot with a
SIM card, and two for each record. Texts of lines and package names without blanks are all that
it takes for two reports to be the same only if they tell the same.
-/

namespace TelephonyStateRegistry

open Reactive

variable {P : Platform}

/-- The texts for the states of a slot take up no more than a line. -/
structure EnumConvert.OneLine (X : EnumConvert) : Prop where
  simState : ∀ n, '\n' ∉ (X.getSimState n).toList
  cardType : ∀ n, '\n' ∉ (X.getCardType n).toList
  lockReason : ∀ n, '\n' ∉ (X.getLockReason n).toList
  callState : ∀ n, '\n' ∉ (X.getCallState n).toList
  dataConnectionState : ∀ n, '\n' ∉ (X.getCellularDataConnectionState n).toList
  dataFlow : ∀ n, '\n' ∉ (X.getCellularDataFlow n).toList
  networkType : ∀ n, '\n' ∉ (X.getCellularDataConnectionNetworkType n).toList

/-- The texts in a report for the states of a slot. -/
def slotTexts (X : EnumConvert) (slot : Int) (s : Service P) : List String :=
  [X.getSimState (getSimState s slot), X.getCardType (getCardType s slot),
    X.getLockReason (getLockReason s slot), X.getCallState (getCallState s slot),
    X.getCellularDataConnectionState (getCellularDataConnectionState s slot),
    X.getCellularDataFlow (getCellularDataFlow s slot),
    X.getCellularDataConnectionNetworkType (getCellularDataConnectionNetworkType s slot)]

/-- What a report has of a record. -/
structure ReportedRecord where
  title : String
  package : String
  pid : Int
  mask : BitVec 32
  slotId : Int
  deriving DecidableEq, Repr

/-- A record in a report. -/
def Record.reported (P : Platform) (item : Record) : ReportedRecord :=
  ⟨registerTitle P item, item.bundleName, item.pid, item.mask, item.slotId⟩

/-- Two reports tell the same. -/
structure SameReport (X X' : SystemAnswers) (m m' : ServiceMembers P) : Prop where
  getInstance : X.getInstance = X'.getInstance
  members : X.getInstance = true →
    m.bindStartTime = m'.bindStartTime ∧ m.bindEndTime = m'.bindEndTime ∧ m.state = m'.state
  slots : X.getInstance = true → ∀ slot ∈ dumpedSlots P, X.hasSimCard slot = X'.hasSimCard slot ∧
    (X.hasSimCard slot = true →
      slotTexts X.enumConvert slot m.guarded = slotTexts X'.enumConvert slot m'.guarded)
  records : m.guarded.stateRecords.map (Record.reported P) =
    m'.guarded.stateRecords.map (Record.reported P)

/-- Lines with a label in front. -/
private def lines (labels : List String) : List (TextField Char) :=
  labels.map fun label => ⟨label.toList, '\n'⟩

private def memberFields : List (TextField Char) := lines
  ["TelephonyStateRegistry BindStartTime = ", "TelephonyStateRegistry BindEndTime = ",
    "TelephonyStateRegistry BindSpendTime = ", "TelephonyStateRegistry ServiceRunningState = "]

private def slotFields : List (TextField Char) := lines
  ["SlotId = ", "SimState = ", "CardType = ", "LockReason = ", "CallState = ",
    "CellularDataConnectionState = ", "CellularDataFlow = ",
    "CellularDataConnectionNetworkType = "]

private def countFields : List (TextField Char) := lines ["registrations: count= "]

private def recordFields : List (TextField Char) :=
  [⟨"".toList, '\n'⟩, ⟨"    \x7b package: ".toList, ' '⟩, ⟨"pid: ".toList, ' '⟩,
    ⟨"mask: ".toList, ' '⟩, ⟨"slotId: ".toList, ' '⟩, ⟨"\x7d".toList, '\n'⟩]

/-- The contents of the lines for the members. -/
private def memberTexts (m : ServiceMembers P) : List (List Char) :=
  [toString m.bindStartTime, toString m.bindEndTime, toString (m.bindEndTime - m.bindStartTime),
    toString m.state.value].map String.toList

private def slotContents (X : EnumConvert) (s : Service P) (slot : Int) : List (List Char) :=
  (toString slot :: slotTexts X slot s).map String.toList

private def ReportedRecord.contents (item : ReportedRecord) : List (List Char) :=
  [item.title, item.package, toString item.pid, toString item.mask.toNat, toString item.slotId,
    ""].map String.toList

private theorem showSlot_frame (X : EnumConvert) (slot : Int) (s : Service P) :
    (showSlot X slot s).value.toList = frame slotFields (slotContents X s slot) := by
  simp [showSlot, query, frame, slotFields, lines, slotContents, slotTexts]

private theorem showSlots_frames (X : EnumConvert) (hasSimCard : Int → Bool) (s : Service P)
    (slots : List Int) :
    (showSlots X hasSimCard s slots).value.toList =
      ((slots.filter hasSimCard).map (slotContents X s)).flatMap (frame slotFields) := by
  induction slots with
  | nil => rfl
  | cons slot slots ih =>
    rw [showSlots]
    cases hcard : hasSimCard slot with
    | true =>
      simp only [if_true, Locked.value_bind, Locked.value_pure, String.toList_append, ih,
        showSlot_frame, List.filter_cons_of_pos hcard, List.map_cons, List.flatMap_cons]
    | false =>
      have hnot : ¬hasSimCard slot = true := by rw [hcard]; decide
      simp only [Bool.false_eq_true, if_false, Locked.value_bind, Locked.value_pure,
        String.toList_append, ih, List.filter_cons_of_neg hnot]
      rfl

/-- The part of a report about the state of the service. -/
private def stateText (X : SystemAnswers) (m : ServiceMembers P) : List Char :=
  if X.getInstance = false then []
  else frame memberFields (memberTexts m) ++
    (((dumpedSlots P).filter X.hasSimCard).map
      (slotContents X.enumConvert m.guarded)).flatMap (frame slotFields)

private theorem showTelephonyChangeState_frames (X : SystemAnswers) (m : ServiceMembers P) :
    (showTelephonyChangeState X m).value.toList = stateText X m := by
  rw [showTelephonyChangeState, stateText]
  split_ifs
  · rfl
  · have hend : "\nTelephonyStateRegistry BindEndTime = ".toList =
        '\n' :: "TelephonyStateRegistry BindEndTime = ".toList := by decide
    have hspend : "\nTelephonyStateRegistry BindSpendTime = ".toList =
        '\n' :: "TelephonyStateRegistry BindSpendTime = ".toList := by decide
    have hstate : "\nTelephonyStateRegistry ServiceRunningState = ".toList =
        '\n' :: "TelephonyStateRegistry ServiceRunningState = ".toList := by decide
    have hline : "\n".toList = ['\n'] := by decide
    simp only [Locked.value_bind, Locked.value_pure, String.toList_append, showSlots_frames, hend,
      hspend, hstate, hline, frame, memberFields, lines, memberTexts, List.map_cons, List.map_nil,
      List.append_assoc, List.cons_append, List.nil_append]

/-- The part about the records. -/
private def recordText (records : List ReportedRecord) : List Char :=
  frame countFields [(toString records.length).toList] ++
    (records.map ReportedRecord.contents).flatMap (frame recordFields)

private theorem item_frame (item : Record) :
    (registerTitle P item ++ "\n    \x7b package: " ++ item.bundleName ++
      " pid: " ++ toString item.pid ++ " mask: " ++ toString item.mask.toNat ++
      " slotId: " ++ toString item.slotId ++ " \x7d\n").toList =
        frame recordFields (item.reported P).contents := by
  have hpackage : "\n    \x7b package: ".toList = '\n' :: "    \x7b package: ".toList := by
    decide
  have hpid : " pid: ".toList = ' ' :: "pid: ".toList := by decide
  have hmask : " mask: ".toList = ' ' :: "mask: ".toList := by decide
  have hslot : " slotId: ".toList = ' ' :: "slotId: ".toList := by decide
  have hend : " \x7d\n".toList = ' ' :: ("\x7d".toList ++ ['\n']) := by decide
  simp only [String.toList_append, hpackage, hpid, hmask, hslot, hend, frame, recordFields,
    ReportedRecord.contents, Record.reported, List.map_cons, List.map_nil, String.toList_empty,
    List.append_assoc, List.cons_append, List.nil_append]

private theorem count_frame (n : Nat) :
    ("registrations: count= " ++ toString n ++ "\n").toList =
      frame countFields [(toString n).toList] := by
  have hline : "\n".toList = ['\n'] := by decide
  simp only [String.toList_append, hline, frame, countFields, lines, List.map_cons, List.map_nil,
    List.append_assoc]

private theorem showTelephonyStateRegistryInfo_frames (records : List Record) :
    (showTelephonyStateRegistryInfo P records).toList =
      recordText (records.map (Record.reported P)) := by
  have hitems : (String.join (records.map fun item =>
      registerTitle P item ++ "\n    \x7b package: " ++ item.bundleName ++
        " pid: " ++ toString item.pid ++ " mask: " ++ toString item.mask.toNat ++
        " slotId: " ++ toString item.slotId ++ " \x7d\n")).toList =
      ((records.map (Record.reported P)).map ReportedRecord.contents).flatMap
        (frame recordFields) := by
    induction records with
    | nil => simp only [List.map_nil, String.join_nil, String.toList_empty, List.flatMap_nil]
    | cons item items ih =>
      rw [List.map_cons, String.join_cons, String.toList_append, ih, item_frame, List.map_cons,
        List.map_cons, List.flatMap_cons]
  unfold showTelephonyStateRegistryInfo recordText
  rw [String.toList_append, hitems, count_frame, List.length_map]

/-- **A report as fields.** -/
private theorem dumpHelper_frames (X : SystemAnswers) (m : ServiceMembers P) :
    (dumpHelper X m).value.toList =
      stateText X m ++ recordText (m.guarded.stateRecords.map (Record.reported P)) := by
  simp only [dumpHelper, Locked.value_bind, Locked.value_pure, String.toList_append,
    showTelephonyChangeState_frames, showTelephonyStateRegistryInfo_frames]

private theorem not_mem_toString {a : Char} (hdigit : a.isDigit = false) (hminus : a ≠ '-')
    (n : Int) : a ∉ (toString n).toList := by
  have hnat (n : Nat) : a ∉ n.repr.toList := by
    rw [Nat.toList_repr]
    intro hmem
    have hdigit' := Nat.isDigit_of_mem_toDigits (by decide) (by decide) hmem
    rw [hdigit] at hdigit'
    cases hdigit'
  rw [Int.toString_eq_repr, Int.repr_eq_if]
  split_ifs
  · exact hnat _
  · have hsign : "-".toList = ['-'] := by decide
    rw [String.toList_append, hsign, List.mem_append, List.mem_singleton]
    exact not_or.mpr ⟨hminus, hnat _⟩

private theorem not_mem_toString_nat {a : Char} (hdigit : a.isDigit = false) (hminus : a ≠ '-')
    (n : Nat) : a ∉ (toString n).toList := not_mem_toString hdigit hminus n

private theorem toString_injective {n n' : Int} (h : (toString n).toList = (toString n').toList) :
    n = n' := Int.repr_injective (String.toList_injective h)

private theorem framed_lines {labels : List String} {contents : List (List Char)}
    (hlength : labels.length = contents.length) (h : ∀ content ∈ contents, '\n' ∉ content) :
    Framed (lines labels) contents := by
  rw [Framed, lines, List.forall₂_map_left_iff, List.forall₂_iff_zip]
  exact ⟨hlength, fun hmem => h _ (List.of_mem_zip hmem).2⟩

private theorem framed_members (m : ServiceMembers P) : Framed memberFields (memberTexts m) := by
  refine framed_lines rfl ?_
  simp only [memberTexts, List.map_cons, List.map_nil, List.forall_mem_cons, List.not_mem_nil,
    false_imp_iff, implies_true, and_true]
  have hnumber := not_mem_toString (a := '\n') rfl (by decide)
  exact ⟨hnumber _, hnumber _, hnumber _, hnumber _⟩

private theorem framed_slot {X : EnumConvert} (h : X.OneLine) (s : Service P) (slot : Int) :
    Framed slotFields (slotContents X s slot) := by
  refine framed_lines rfl ?_
  simp only [slotContents, slotTexts, List.map_cons, List.map_nil, List.forall_mem_cons,
    List.not_mem_nil, false_imp_iff, implies_true, and_true]
  exact ⟨not_mem_toString rfl (by decide) slot, h.simState _, h.cardType _, h.lockReason _,
    h.callState _, h.dataConnectionState _, h.dataFlow _, h.networkType _⟩

private theorem framed_count (n : Nat) : Framed countFields [(toString n).toList] := by
  refine framed_lines rfl ?_
  rw [List.forall_mem_singleton]
  exact not_mem_toString_nat rfl (by decide) n

private theorem not_mem_registerTitle (item : Record) : '\n' ∉ (registerTitle P item).toList := by
  unfold registerTitle
  split_ifs <;> decide

private theorem framed_record {item : Record} (h : ' ' ∉ item.bundleName.toList) :
    Framed recordFields (item.reported P).contents := by
  have hblank := not_mem_toString (a := ' ') rfl (by decide)
  refine .cons (not_mem_registerTitle item) (.cons h (.cons (hblank _) (.cons ?_ (.cons
    (hblank _) (.cons ?_ .nil)))))
  · exact not_mem_toString_nat rfl (by decide) _
  · decide

private theorem contents_injective : Function.Injective ReportedRecord.contents := by
  rintro ⟨title, package, pid, mask, slotId⟩ ⟨title', package', pid', mask', slotId'⟩ h
  simp only [ReportedRecord.contents, List.map_cons, List.map_nil, List.cons.injEq, and_true]
    at h
  obtain ⟨htitle, hpackage, hpid, hmask, hslotId⟩ := h
  have hmask : (mask.toNat : Int) = mask'.toNat := toString_injective hmask
  rw [String.toList_injective htitle, String.toList_injective hpackage, toString_injective hpid,
    BitVec.eq_of_toNat_eq (Int.ofNat.inj hmask), toString_injective hslotId]

private theorem frame_record_ne_nil {contents : List (List Char)}
    (h : Framed recordFields contents) (more : List Char) :
    frame recordFields contents ++ more ≠ [] := by
  cases h with
  | cons _ _ =>
    intro hnil
    have hframe := (List.append_eq_nil_iff.mp hnil).1
    exact List.cons_ne_nil _ _ (List.append_eq_nil_iff.mp (List.append_eq_nil_iff.mp hframe).2).2

private theorem records_of_text {records records' : List Record}
    (h : ∀ item ∈ records, ' ' ∉ item.bundleName.toList)
    (h' : ∀ item ∈ records', ' ' ∉ item.bundleName.toList)
    (heq : recordText (records.map (Record.reported P)) =
      recordText (records'.map (Record.reported P))) :
    records.map (Record.reported P) = records'.map (Record.reported P) := by
  have hframed {items : List Record} (hitems : ∀ item ∈ items, ' ' ∉ item.bundleName.toList) :
      ∀ contents ∈ (items.map (Record.reported P)).map ReportedRecord.contents,
        Framed recordFields contents := by
    rw [List.forall_mem_map, List.forall_mem_map]
    exact fun item hitem => framed_record (hitems item hitem)
  obtain ⟨-, hitems⟩ := frame_append_inj (framed_count _) (framed_count _) heq
  have hstop : ∀ contents more, Framed recordFields contents →
      frame recordFields contents ++ more ≠ [] := fun _ more hc => frame_record_ne_nil hc more
  obtain ⟨hcontents, -⟩ := frames_append_inj (hframed h) (hframed h') hstop hstop
    (congrArg (· ++ []) hitems)
  exact List.map_injective_iff.mpr contents_injective hcontents

private theorem head_recordText (items : List ReportedRecord) :
    (recordText items).head? = some 'r' := by
  have hlabel : "registrations: count= ".toList =
      'r' :: "egistrations: count= ".toList := by decide
  simp only [recordText, frame, countFields, lines, List.map_cons, hlabel, List.cons_append,
    List.head?_cons]

private theorem head_slot {contents : List (List Char)} (h : Framed slotFields contents)
    (more : List Char) : (frame slotFields contents ++ more).head? = some 'S' := by
  have hlabel : "SlotId = ".toList = 'S' :: "lotId = ".toList := by decide
  cases contents with
  | nil => cases h
  | cons content contents =>
    simp only [slotFields, lines, List.map_cons, frame, hlabel, List.cons_append,
      List.head?_cons]

private theorem head_members (m : ServiceMembers P) (more : List Char) :
    (frame memberFields (memberTexts m) ++ more).head? = some 'T' := by
  have hlabel : "TelephonyStateRegistry BindStartTime = ".toList =
      'T' :: "elephonyStateRegistry BindStartTime = ".toList := by decide
  simp only [memberTexts, memberFields, lines, List.map_cons, frame, hlabel, List.cons_append,
    List.head?_cons]

private theorem state_injective {state state' : ServiceRunningState}
    (h : state.value = state'.value) : state = state' := by
  cases state <;> cases state' <;> first | rfl | cases h

private theorem slot_of_contents {X X' : EnumConvert} {s s' : Service P} {slots : List Int}
    {hasSimCard hasSimCard' : Int → Bool}
    (heq : (slots.filter hasSimCard).map (slotContents X s) =
      (slots.filter hasSimCard').map (slotContents X' s')) {slot : Int} (hslot : slot ∈ slots)
    (hcard : hasSimCard slot = true) :
    hasSimCard' slot = true ∧ slotTexts X slot s = slotTexts X' slot s' := by
  have hmem : slotContents X s slot ∈ (slots.filter hasSimCard').map (slotContents X' s') := by
    rw [← heq]
    exact List.mem_map_of_mem (List.mem_filter.mpr ⟨hslot, hcard⟩)
  obtain ⟨slot', hslot', hsame⟩ := List.mem_map.mp hmem
  simp only [slotContents, List.map_cons, List.cons.injEq] at hsame
  obtain ⟨hnumber, htexts⟩ := hsame
  obtain rfl := toString_injective hnumber
  refine ⟨(List.mem_filter.mp hslot').2, ?_⟩
  exact List.map_injective_iff.mpr (fun _ _ => String.toList_injective) htexts.symm

private theorem same_of_text {X X' : SystemAnswers} {m m' : ServiceMembers P}
    (hX : X.enumConvert.OneLine) (hX' : X'.enumConvert.OneLine)
    (h : ∀ item ∈ m.guarded.stateRecords, ' ' ∉ item.bundleName.toList)
    (h' : ∀ item ∈ m'.guarded.stateRecords, ' ' ∉ item.bundleName.toList)
    (heq : stateText X m ++ recordText (m.guarded.stateRecords.map (Record.reported P)) =
      stateText X' m' ++ recordText (m'.guarded.stateRecords.map (Record.reported P))) :
    SameReport X X' m m' := by
  have hhead := congrArg List.head? heq
  unfold stateText at heq hhead
  cases hfound : X.getInstance with
  | false =>
    cases hfound' : X'.getInstance with
    | false =>
      have hnot : ¬X.getInstance = true := by rw [hfound]; decide
      rw [if_pos hfound, if_pos hfound'] at heq
      exact ⟨by rw [hfound, hfound'], fun hyes => absurd hyes hnot, fun hyes => absurd hyes hnot,
        records_of_text h h' heq⟩
    | true =>
      rw [if_pos hfound, if_neg (by rw [hfound']; decide), List.append_assoc, List.nil_append,
        head_recordText, head_members] at hhead
      cases hhead
  | true =>
    cases hfound' : X'.getInstance with
    | false =>
      rw [if_pos hfound', if_neg (by rw [hfound]; decide), List.append_assoc, List.nil_append,
        head_recordText, head_members] at hhead
      cases hhead
    | true =>
      rw [if_neg (by rw [hfound]; decide), if_neg (by rw [hfound']; decide), List.append_assoc,
        List.append_assoc] at heq
      obtain ⟨hmembers, hrest⟩ := frame_append_inj (framed_members m) (framed_members m') heq
      have hstop (items : List ReportedRecord) : ∀ contents more, Framed slotFields contents →
          frame slotFields contents ++ more ≠ recordText items := by
        intro contents more hcontents hsame
        have hfirst := head_slot hcontents more
        rw [hsame, head_recordText] at hfirst
        cases hfirst
      obtain ⟨hslots, hrecords⟩ := frames_append_inj
        (List.forall_mem_map.mpr fun slot _ => framed_slot hX m.guarded slot)
        (List.forall_mem_map.mpr fun slot _ => framed_slot hX' m'.guarded slot) (hstop _) (hstop _)
        hrest
      simp only [memberTexts, List.map_cons, List.map_nil, List.cons.injEq, and_true] at hmembers
      obtain ⟨hstart, hend, -, hstate⟩ := hmembers
      refine ⟨hfound.trans hfound'.symm, fun _ => ?_, fun _ slot hslot => ?_,
        records_of_text h h' hrecords⟩
      · exact ⟨toString_injective hstart, toString_injective hend,
          state_injective (toString_injective hstate)⟩
      · refine ⟨Bool.eq_iff_iff.mpr ⟨fun hcard => ?_, fun hcard => ?_⟩, fun hcard => ?_⟩
        · exact (slot_of_contents hslots hslot hcard).1
        · exact (slot_of_contents hslots.symm hslot hcard).1
        · exact (slot_of_contents hslots hslot hcard).2

private theorem text_of_same {X X' : SystemAnswers} {m m' : ServiceMembers P}
    (h : SameReport X X' m m') :
    stateText X m ++ recordText (m.guarded.stateRecords.map (Record.reported P)) =
      stateText X' m' ++ recordText (m'.guarded.stateRecords.map (Record.reported P)) := by
  rw [h.records]
  refine congrArg (· ++ _) ?_
  unfold stateText
  cases hfound : X.getInstance with
  | false => rw [← h.getInstance, hfound, if_pos rfl, if_pos rfl]
  | true =>
    obtain ⟨hstart, hend, hstate⟩ := h.members hfound
    have hslots := h.slots hfound
    have hcards : (dumpedSlots P).filter X.hasSimCard = (dumpedSlots P).filter X'.hasSimCard :=
      List.filter_congr fun slot hslot => (hslots slot hslot).1
    have htexts : ((dumpedSlots P).filter X.hasSimCard).map (slotContents X.enumConvert m.guarded) =
        ((dumpedSlots P).filter X.hasSimCard).map (slotContents X'.enumConvert m'.guarded) := by
      refine List.map_congr_left fun slot hslot => ?_
      obtain ⟨hmem, hcard⟩ := List.mem_filter.mp hslot
      rw [slotContents, slotContents, (hslots slot hmem).2 hcard]
    rw [← h.getInstance, hfound, if_neg (by decide), if_neg (by decide), htexts, hcards,
      memberTexts, memberTexts, hstart, hend, hstate]

/-- **What a report tells.** Two reports of the service are the same text exactly if they tell
the same: the members, the slots with a SIM card and the texts for their states, and all records
in their order with title, package, process, mask and slot. -/
theorem reports_same_iff {X X' : SystemAnswers} {m m' : ServiceMembers P}
    (hX : X.enumConvert.OneLine) (hX' : X'.enumConvert.OneLine)
    (hpackages : ∀ item ∈ m.guarded.stateRecords, ' ' ∉ item.bundleName.toList)
    (hpackages' : ∀ item ∈ m'.guarded.stateRecords, ' ' ∉ item.bundleName.toList) :
    (dumpHelper X m).value = (dumpHelper X' m').value ↔ SameReport X X' m m' := by
  rw [← String.toList_inj, dumpHelper_frames, dumpHelper_frames]
  exact ⟨same_of_text hX hX' hpackages hpackages', text_of_same⟩

/-- A device with a card in its first slot, where every state has the same text. -/
private def oneCard : SystemAnswers where
  env := .native
  startTime := 0
  endTime := 0
  getInstance := true
  hasSimCard slot := slot = 0
  enumConvert := ⟨fun _ => "none", fun _ => "none", fun _ => "none", fun _ => "none",
    fun _ => "none", fun _ => "none", fun _ => "none"⟩
  dprintf := true

/-- Two services with one record each, on different slots. -/
theorem records_told_apart :
    let members (slotId : Int) : ServiceMembers .dualSim :=
      ⟨⟨Caches.init .dualSim, [{ bundleName := "app", slotId }]⟩, .stateRunning, 1, 2⟩
    (dumpHelper oneCard (members 0)).value = (dumpHelper oneCard (members 1)).value ↔
      SameReport oneCard oneCard (members 0) (members 1) := by
  intro members
  have hline : oneCard.enumConvert.OneLine := by
    have htext : '\n' ∉ "none".toList := by decide
    exact ⟨fun _ => htext, fun _ => htext, fun _ => htext, fun _ => htext, fun _ => htext,
      fun _ => htext, fun _ => htext⟩
  have hpackages (slotId : Int) :
      ∀ item ∈ (members slotId).guarded.stateRecords, ' ' ∉ item.bundleName.toList := by
    intro item hitem
    rw [List.mem_singleton.mp hitem]
    change ' ' ∉ "app".toList
    decide
  exact reports_same_iff hline hline (hpackages 0) (hpackages 1)

end TelephonyStateRegistry
