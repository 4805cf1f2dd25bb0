import LinkGuardian.Corruptd.Upstream
import LinkGuardian.Library.Loops
import LinkGuardian.Library.SeparatedText
import Mathlib.Data.List.Sort
import Mathlib.Data.Rat.Floor

/-!
# The file of affected flows

`process_affected_flows.py` groups the packets that were lost by their flows and prints a line for
each flow, by the time of its first lost packet.  `process_sender_trace.py` reads the file back, and
keeps the flows that lost data and those that lost consecutive data.

Sequence numbers are compared modulo `2 ^ 32` and with a sign: two numbers are consecutive when the
later packet is ahead of the earlier one, by a segment at most.  Equal or descending numbers are
not.
-/

namespace LinkGuardian.Analysis

open SeparatedText

inductive PktType
  | psh
  | syn
  | fin
  | ack
  | data
  | none
deriving DecidableEq

def PktType.text : PktType → List Char
  | .psh => "PSH".toList
  | .syn => "SYN".toList
  | .fin => "FIN".toList
  | .ack => "ACK".toList
  | .data => "DATA".toList
  | .none => []

/-- A parsed packet that was lost; `ipg` is the source MAC address read as a number. -/
structure LostPkt where
  flowId : ℤ
  pktTime : ℚ
  ipg : ℤ
  holeSize : ℤ
  ack : ℤ
  psh : ℤ
  syn : ℤ
  fin : ℤ
  tcpPayloadLen : ℤ
  tcpSeqNoRaw : ℤ

structure PktInfo where
  ipg : ℤ
  holeSize : ℤ
  type : PktType
  tcpSeqNoRaw : ℤ
  tcpPayloadLen : ℤ

def formPktInfo (row : LostPkt) : PktInfo where
  ipg := row.ipg
  holeSize := row.holeSize
  type :=
    if row.psh = 1 then .psh
    else if row.syn = 1 then .syn
    else if row.fin = 1 then .fin
    else if row.ack = 1 then if row.tcpPayloadLen = 0 then .ack else .data
    else .none
  tcpSeqNoRaw := row.tcpSeqNoRaw
  tcpPayloadLen := row.tcpPayloadLen

/-! ## Writing -/

/-- What is tracked of a flow.  The time is that of its first packet, by which the flows are ordered
in the file. -/
structure LossFlow where
  time : ℚ
  pkts : List PktInfo

/-- The tracked flows, in the order of their insertion. -/
abbrev LossFlows := List (ℤ × LossFlow)

def trackLoss (flows : LossFlows) (row : LostPkt) : LossFlows :=
  if flows.any fun p => p.1 = row.flowId then
    flows.map fun p =>
      if p.1 = row.flowId then (p.1, { p.2 with pkts := p.2.pkts ++ [formPktInfo row] }) else p
  else flows ++ [(row.flowId, ⟨row.pktTime, [formPktInfo row]⟩)]

structure FlowEntry where
  time : ℚ
  flowId : ℤ
  pktCount : ℕ
  pkts : List PktInfo

/-- `flush_flow`: a flow that lost its SYN only is left out. -/
def flushFlow (p : ℤ × LossFlow) : Option FlowEntry :=
  if p.2.pkts.length = 1 ∧ p.2.pkts.head?.map PktInfo.type = some .syn then none
  else some ⟨p.2.time, p.1, p.2.pkts.length, p.2.pkts⟩

/-- The flows of the file. -/
def flushedFlows (rows : List LostPkt) : List FlowEntry :=
  ((rows.foldl trackLoss []).filterMap flushFlow).insertionSort fun a b => a.time ≤ b.time

def PktInfo.text (info : PktInfo) : List Char :=
  [','].intercalate [info.ipg.repr.toList, info.holeSize.repr.toList, info.type.text,
    info.tcpSeqNoRaw.repr.toList, info.tcpPayloadLen.repr.toList]

/-- The columns of `flow_entry_to_str`. -/
def FlowEntry.columns (e : FlowEntry) : List (List Char) :=
  [e.flowId.repr.toList, (e.pktCount : ℤ).repr.toList] ++ e.pkts.map PktInfo.text

def affectedFlowsFile (rows : List LostPkt) : List Char :=
  ((flushedFlows rows).map FlowEntry.columns).flatMap (line '\t' '\n')

/-! ## Reading -/

/-- Two packets in succession whose sequence numbers are at most a segment apart. -/
def consecutive (mssBytes currSeq nextSeq : ℤ) : Bool :=
  let diff := nextSeq - currSeq
  let diff := if diff < 0 then diff + 2 ^ 32 else diff
  0 < diff ∧ diff ≤ mssBytes

def checkForConsecutiveDataLoss (mssBytes : ℤ) (lostRawSeqNos : List ℤ) : Bool :=
  (lostRawSeqNos.zip lostRawSeqNos.tail).any fun p => consecutive mssBytes p.1 p.2

structure Loaded where
  affectedFlows : List ℤ := []
  affectedFlowsWithoutDataLoss : List ℤ := []
  affectedFlowsConsecutiveLoss : List ℤ := []

/-- What a line has shown so far.  The list of flows with consecutive loss goes along, since a
single long packet already adds to it. -/
structure LineLoss where
  dataLossSeen : Bool := false
  dataLossRawSeqNos : List ℤ := []
  affectedFlowsConsecutiveLoss : List ℤ

/-- A packet of the line: a longer payload is of several segments. -/
def loadPkt (mssBytes flowId : ℤ) (l : LineLoss) (info : List Char) : Option LineLoss := do
  let columns := info.splitOn ','
  let pktType ← columns[2]?
  if pktType = PktType.data.text ∨ pktType = PktType.psh.text then
    let rawSeqNo ← Corruptd.int (← columns[3]?)
    let tcpPayloadLen ← Corruptd.int (← columns[4]?)
    return {
      dataLossSeen := true
      dataLossRawSeqNos := l.dataLossRawSeqNos ++ [rawSeqNo]
      affectedFlowsConsecutiveLoss :=
        if tcpPayloadLen > mssBytes then l.affectedFlowsConsecutiveLoss ++ [flowId]
        else l.affectedFlowsConsecutiveLoss }
  else return l

def loadRow (mssBytes : ℤ) (loaded : Loaded) (row : List (List Char)) : Option Loaded := do
  let flowId ← Corruptd.int (← row[0]?)
  let pktCount ← Corruptd.int (← row[1]?)
  let l ← (List.range' 2 pktCount.toNat).foldlM
    (fun l i => do loadPkt mssBytes flowId l (← row[i]?))
    { affectedFlowsConsecutiveLoss := loaded.affectedFlowsConsecutiveLoss : LineLoss }
  if l.dataLossSeen then
    return { loaded with
      affectedFlows := loaded.affectedFlows ++ [flowId]
      affectedFlowsConsecutiveLoss :=
        if l.dataLossRawSeqNos.length > 1 ∧
            checkForConsecutiveDataLoss mssBytes l.dataLossRawSeqNos then
          l.affectedFlowsConsecutiveLoss ++ [flowId]
        else l.affectedFlowsConsecutiveLoss }
  else
    return { loaded with
      affectedFlowsWithoutDataLoss := loaded.affectedFlowsWithoutDataLoss ++ [flowId]
      affectedFlowsConsecutiveLoss := l.affectedFlowsConsecutiveLoss }

/-- The file has no quotes, so that its lines split at the tabs. -/
def loadAffectedFlows (mssBytes : ℤ) (file : List Char) : Option Loaded :=
  (records '\t' '\n' file).foldlM (loadRow mssBytes) {}

/-! ## What is printed is read -/

lemma plain_of_mem_repr {n : ℤ} {c : Char} (hc : c ∈ n.repr.toList) :
    c ≠ '\t' ∧ c ≠ '\n' ∧ c ≠ ',' := by
  rcases Corruptd.mem_repr hc with rfl | h
  · decide
  · refine ⟨?_, ?_, ?_⟩ <;> rintro rfl <;> exact absurd h (by decide)

lemma plain_of_mem_text {t : PktType} {c : Char} (hc : c ∈ t.text) :
    c ≠ '\t' ∧ c ≠ '\n' ∧ c ≠ ',' := by
  have hfree : '\t' ∉ t.text ∧ '\n' ∉ t.text ∧ ',' ∉ t.text := by cases t <;> simp [PktType.text]
  refine ⟨?_, ?_, ?_⟩ <;> rintro rfl <;> simp [hc] at hfree

lemma PktType.text_inj {t t' : PktType} : t.text = t'.text ↔ t = t' := by
  cases t <;> cases t' <;> simp [text]

namespace PktInfo

/-- Payload that counts as lost. -/
def IsData (info : PktInfo) : Prop := info.type = .data ∨ info.type = .psh

instance (info : PktInfo) : Decidable info.IsData := inferInstanceAs (Decidable (_ ∨ _))

def columns (info : PktInfo) : List (List Char) :=
  [info.ipg.repr.toList, info.holeSize.repr.toList, info.type.text,
    info.tcpSeqNoRaw.repr.toList, info.tcpPayloadLen.repr.toList]

lemma plain_columns {info : PktInfo} {column : List Char} (h : column ∈ info.columns) {c : Char}
    (hc : c ∈ column) : c ≠ '\t' ∧ c ≠ '\n' ∧ c ≠ ',' := by
  simp only [columns, List.mem_cons, List.not_mem_nil, or_false] at h
  rcases h with rfl | rfl | rfl | rfl | rfl
  · exact plain_of_mem_repr hc
  · exact plain_of_mem_repr hc
  · exact plain_of_mem_text hc
  · exact plain_of_mem_repr hc
  · exact plain_of_mem_repr hc

lemma splitOn_text (info : PktInfo) : info.text.splitOn ',' = info.columns := by
  refine List.splitOn_intercalate ',' (fun column hcolumn hc => ?_) (List.cons_ne_nil _ _)
  exact (plain_columns hcolumn hc).2.2 rfl

lemma plain_text {info : PktInfo} {c : Char} (hc : c ∈ info.text) : c ≠ '\t' ∧ c ≠ '\n' := by
  rcases eq_or_mem_of_mem_intercalate hc with rfl | ⟨column, hcolumn, hc⟩
  · decide
  · have hplain := plain_columns hcolumn hc
    exact ⟨hplain.1, hplain.2.1⟩

end PktInfo

lemma FlowEntry.plain_columns (e : FlowEntry) : Plain '\t' '\n' e.columns := by
  have hboth : ∀ column ∈ e.columns, ∀ c ∈ column, c ≠ '\t' ∧ c ≠ '\n' := by
    intro column hcolumn c hc
    rcases List.mem_append.mp hcolumn with hcolumn | hcolumn
    · simp only [List.mem_cons, List.not_mem_nil, or_false] at hcolumn
      rcases hcolumn with rfl | rfl
      · exact ⟨(plain_of_mem_repr hc).1, (plain_of_mem_repr hc).2.1⟩
      · exact ⟨(plain_of_mem_repr hc).1, (plain_of_mem_repr hc).2.1⟩
    · obtain ⟨info, -, rfl⟩ := List.mem_map.mp hcolumn
      exact PktInfo.plain_text hc
  exact ⟨List.cons_ne_nil _ _, fun column h hc => (hboth column h _ hc).1 rfl,
    fun column h hc => (hboth column h _ hc).2 rfl⟩

/-- The lines of the file. -/
lemma records_affectedFlowsFile (rows : List LostPkt) :
    records '\t' '\n' (affectedFlowsFile rows) = (flushedFlows rows).map FlowEntry.columns := by
  refine records_flatMap_line (by decide) fun columns hcolumns => ?_
  obtain ⟨e, -, rfl⟩ := List.mem_map.mp hcolumns
  exact e.plain_columns

/-! ## What is loaded of a line -/

variable {mssBytes flowId : ℤ}

/-- What a packet adds to what its line has shown. -/
def LineLoss.add (mssBytes flowId : ℤ) (l : LineLoss) (info : PktInfo) : LineLoss :=
  if info.IsData then
    { dataLossSeen := true
      dataLossRawSeqNos := l.dataLossRawSeqNos ++ [info.tcpSeqNoRaw]
      affectedFlowsConsecutiveLoss :=
        if info.tcpPayloadLen > mssBytes then l.affectedFlowsConsecutiveLoss ++ [flowId]
        else l.affectedFlowsConsecutiveLoss }
  else l

lemma loadPkt_text (l : LineLoss) (info : PktInfo) :
    loadPkt mssBytes flowId l info.text = some (l.add mssBytes flowId info) := by
  have htype : info.type.text = PktType.data.text ∨ info.type.text = PktType.psh.text ↔
      info.IsData := or_congr PktType.text_inj PktType.text_inj
  simp only [loadPkt, info.splitOn_text, PktInfo.columns, LineLoss.add, htype,
    List.getElem?_cons_succ, List.getElem?_cons_zero, Corruptd.int_repr, Option.bind_eq_bind,
    Option.bind_some]
  split_ifs <;> rfl

namespace FlowEntry

variable (e : FlowEntry)

/-- The sequence numbers of the data that was lost. -/
def lostSeqNos : List ℤ := (e.pkts.filter PktInfo.IsData).map PktInfo.tcpSeqNoRaw

/-- A packet of several segments, or two packets in succession. -/
def ConsecutiveLoss (mssBytes : ℤ) : Prop :=
  (∃ info ∈ e.pkts, info.IsData ∧ info.tcpPayloadLen > mssBytes) ∨
    checkForConsecutiveDataLoss mssBytes e.lostSeqNos = true

end FlowEntry

/-- What the packets add. -/
structure LineLoss.Shows (mssBytes flowId : ℤ) (l : LineLoss) (pkts : List PktInfo)
    (l' : LineLoss) : Prop where
  dataLossSeen : l'.dataLossSeen = true ↔ l.dataLossSeen = true ∨ ∃ info ∈ pkts, info.IsData
  dataLossRawSeqNos : l'.dataLossRawSeqNos =
    l.dataLossRawSeqNos ++ (pkts.filter PktInfo.IsData).map PktInfo.tcpSeqNoRaw
  consecutive : ∀ f, f ∈ l'.affectedFlowsConsecutiveLoss ↔ f ∈ l.affectedFlowsConsecutiveLoss ∨
    (flowId = f ∧ ∃ info ∈ pkts, info.IsData ∧ info.tcpPayloadLen > mssBytes)

lemma LineLoss.shows_foldl (mssBytes flowId : ℤ) (l : LineLoss) (pkts : List PktInfo) :
    l.Shows mssBytes flowId pkts (pkts.foldl (LineLoss.add mssBytes flowId) l) := by
  induction pkts generalizing l with
  | nil => exact ⟨by simp, by simp, by simp⟩
  | cons info pkts ih =>
    obtain ⟨hseen, hseqs, hcons⟩ := ih (l.add mssBytes flowId info)
    by_cases hdata : info.IsData
    · by_cases hlong : info.tcpPayloadLen > mssBytes
      · simp only [LineLoss.add, if_pos hdata, if_pos hlong] at hseen hseqs hcons
        refine ⟨?_, ?_, fun f => ?_⟩
        · simp [LineLoss.add, hdata, hlong, hseen]
        · simp [LineLoss.add, hdata, hlong, hseqs]
        · simp [LineLoss.add, hdata, hlong, hcons]
          grind
      · simp only [LineLoss.add, if_pos hdata, if_neg hlong] at hseen hseqs hcons
        refine ⟨?_, ?_, fun f => ?_⟩
        · simp [LineLoss.add, hdata, hlong, hseen]
        · simp [LineLoss.add, hdata, hlong, hseqs]
        · simp [LineLoss.add, hdata, hlong, hcons]
    · simp only [LineLoss.add, if_neg hdata] at hseen hseqs hcons
      refine ⟨?_, ?_, fun f => ?_⟩
      · simp [LineLoss.add, hdata, hseen]
      · simp [LineLoss.add, hdata, hseqs]
      · simp [LineLoss.add, hdata, hcons]

def FlowEntry.LosesData (e : FlowEntry) : Prop := ∃ info ∈ e.pkts, info.IsData

instance (e : FlowEntry) : Decidable e.LosesData :=
  inferInstanceAs (Decidable (∃ info ∈ e.pkts, info.IsData))

lemma loop_columns (mssBytes : ℤ) (l : LineLoss) (e : FlowEntry) :
    (List.range' 2 e.pkts.length).foldlM
      (fun l i => do loadPkt mssBytes e.flowId l (← e.columns[i]?)) l =
      some (e.pkts.foldl (LineLoss.add mssBytes e.flowId) l) := by
  have hrest := Loop.range'_getElem? (f := fun l info => loadPkt mssBytes e.flowId l info)
    [e.flowId.repr.toList, (e.pktCount : ℤ).repr.toList] (e.pkts.map PktInfo.text) l
  rw [List.length_map, List.foldlM_map] at hrest
  exact hrest.trans (Loop.eq_some_foldl loadPkt_text e.pkts l)

/-- What a line adds to the lists.  Flows are told apart by their lines, so the lists can be read
off line by line. -/
structure Loaded.Gains (mssBytes : ℤ) (loaded : Loaded) (e : FlowEntry) (loaded' : Loaded) :
    Prop where
  affectedFlows : loaded'.affectedFlows =
    loaded.affectedFlows ++ if e.LosesData then [e.flowId] else []
  consecutive : ∀ f, f ∈ loaded'.affectedFlowsConsecutiveLoss ↔
    f ∈ loaded.affectedFlowsConsecutiveLoss ∨ (e.flowId = f ∧ e.ConsecutiveLoss mssBytes)

lemma checkForConsecutiveDataLoss_of_length_le {seqNos : List ℤ} (h : seqNos.length ≤ 1) :
    checkForConsecutiveDataLoss mssBytes seqNos = false := by
  cases seqNos with
  | nil => rfl
  | cons seqNo rest =>
    have hnil : rest = [] := by simpa using h
    rw [hnil]
    rfl

/-- **Step lemma**: a printed line is loaded. -/
lemma loadRow_columns (mssBytes : ℤ) (loaded : Loaded) {e : FlowEntry}
    (hcount : e.pktCount = e.pkts.length) :
    ∃ loaded', loadRow mssBytes loaded e.columns = some loaded' ∧
      loaded.Gains mssBytes e loaded' := by
  have hflow : e.columns[0]? = some e.flowId.repr.toList := rfl
  have hpkts : e.columns[1]? = some (e.pktCount : ℤ).repr.toList := rfl
  obtain ⟨hseen, hseqs, hcons⟩ := LineLoss.shows_foldl mssBytes e.flowId
    { affectedFlowsConsecutiveLoss := loaded.affectedFlowsConsecutiveLoss } e.pkts
  have hlost : (e.pkts.foldl (LineLoss.add mssBytes e.flowId) { affectedFlowsConsecutiveLoss :=
      loaded.affectedFlowsConsecutiveLoss }).dataLossRawSeqNos = e.lostSeqNos := hseqs
  simp only [loadRow, hflow, hpkts, Corruptd.int_repr, Option.bind_eq_bind, Option.bind_some,
    Int.toNat_natCast, hcount]
  have hloop := loop_columns mssBytes
    { affectedFlowsConsecutiveLoss := loaded.affectedFlowsConsecutiveLoss } e
  simp only [Option.bind_eq_bind] at hloop
  rw [hloop, Option.bind_some]
  -- a flow without lost data has no sequence numbers that could be consecutive
  by_cases hdata : e.LosesData
  · rw [if_pos (hseen.mpr (.inr hdata))]
    refine ⟨_, rfl, ⟨by rw [if_pos hdata], fun f => ?_⟩⟩
    simp only [hlost, FlowEntry.ConsecutiveLoss]
    by_cases hcheck : checkForConsecutiveDataLoss mssBytes e.lostSeqNos = true
    · have hmany : e.lostSeqNos.length > 1 := by
        by_contra hfew
        rw [checkForConsecutiveDataLoss_of_length_le (not_lt.mp hfew)] at hcheck
        cases hcheck
      rw [if_pos ⟨hmany, hcheck⟩, List.mem_append, hcons]
      simp only [List.mem_singleton, hcheck, or_true, and_true]
      grind
    · rw [if_neg fun h => hcheck h.2, hcons]
      simp [hcheck]
  · have hno : ¬ (e.pkts.foldl (LineLoss.add mssBytes e.flowId) { affectedFlowsConsecutiveLoss :=
        loaded.affectedFlowsConsecutiveLoss }).dataLossSeen = true := by
      rw [hseen]
      simpa [FlowEntry.LosesData] using hdata
    rw [if_neg hno]
    refine ⟨_, rfl, ⟨by rw [if_neg hdata, List.append_nil], fun f => ?_⟩⟩
    have hnone : e.lostSeqNos = [] := by
      rw [FlowEntry.lostSeqNos, List.map_eq_nil_iff, List.filter_eq_nil_iff]
      intro info hinfo
      simpa using fun h => hdata ⟨info, hinfo, h⟩
    have hcheck : checkForConsecutiveDataLoss mssBytes e.lostSeqNos = false :=
      checkForConsecutiveDataLoss_of_length_le (by simp [hnone])
    rw [hcons, FlowEntry.ConsecutiveLoss, hcheck]
    simp

/-- **Run lemma**: the file is loaded, line by line. -/
lemma exists_loadAffectedFlows (mssBytes : ℤ) (rows : List LostPkt)
    (hcount : ∀ e ∈ flushedFlows rows, e.pktCount = e.pkts.length) :
    ∃ loaded, loadAffectedFlows mssBytes (affectedFlowsFile rows) = some loaded ∧
      loaded.affectedFlows =
        ((flushedFlows rows).filter FlowEntry.LosesData).map FlowEntry.flowId ∧
      ∀ f, f ∈ loaded.affectedFlowsConsecutiveLoss ↔
        ∃ e ∈ flushedFlows rows, e.flowId = f ∧ e.ConsecutiveLoss mssBytes := by
  rw [loadAffectedFlows, records_affectedFlowsFile, List.foldlM_map]
  refine Loop.total (P := fun (entries : List FlowEntry) (loaded : Loaded) =>
    loaded.affectedFlows = (entries.filter FlowEntry.LosesData).map FlowEntry.flowId ∧
      ∀ f, f ∈ loaded.affectedFlowsConsecutiveLoss ↔
        ∃ e ∈ entries, e.flowId = f ∧ e.ConsecutiveLoss mssBytes) ⟨rfl, by simp⟩ ?_
  rintro pre e post loaded hentries ⟨haffected, hcons⟩
  obtain ⟨loaded', hload, hgains⟩ := loadRow_columns mssBytes loaded
    (hcount e (by simp [hentries]))
  refine ⟨loaded', hload, ?_, fun f => ?_⟩
  · rw [hgains.affectedFlows, haffected, List.filter_append, List.map_append]
    by_cases hdata : e.LosesData <;> simp [hdata]
  · rw [hgains.consecutive, hcons]
    simp [or_and_right, exists_or]

/-! ## The flows of the file -/

/-- The packets of a flow. -/
def pktsOf (rows : List LostPkt) (flowId : ℤ) : List LostPkt :=
  rows.filter fun row => row.flowId = flowId

/-- The tracked flows are those of the packets, each with its own and the time of the first.  It is
the invariant of the loop over the packets; the order of the flows is settled when they are
written. -/
structure Grouped (rows : List LostPkt) (flows : LossFlows) : Prop where
  nodup : (flows.map Prod.fst).Nodup
  pkts : ∀ p ∈ flows, p.2.pkts = (pktsOf rows p.1).map formPktInfo
  time : ∀ p ∈ flows, (pktsOf rows p.1).head?.map LostPkt.pktTime = some p.2.time
  tracked : ∀ row ∈ rows, row.flowId ∈ flows.map Prod.fst

@[simp] lemma mem_pktsOf {rows : List LostPkt} {row : LostPkt} {f : ℤ} :
    row ∈ pktsOf rows f ↔ row ∈ rows ∧ row.flowId = f := by
  simp [pktsOf]

lemma pktsOf_append_self {rows : List LostPkt} {row : LostPkt} :
    pktsOf (rows ++ [row]) row.flowId = pktsOf rows row.flowId ++ [row] := by
  simp [pktsOf, List.filter_append]

lemma pktsOf_append_of_ne {rows : List LostPkt} {row : LostPkt} {f : ℤ} (h : row.flowId ≠ f) :
    pktsOf (rows ++ [row]) f = pktsOf rows f := by
  simp [pktsOf, List.filter_append, h]

/-- **Step lemma**: one more packet. -/
lemma Grouped.trackLoss {rows : List LostPkt} {flows : LossFlows} (h : Grouped rows flows)
    (row : LostPkt) : Grouped (rows ++ [row]) (trackLoss flows row) := by
  -- a flow that is there gets the packet in its place, a new one comes to the end
  by_cases hseen : row.flowId ∈ flows.map Prod.fst
  · have hany : (flows.any fun p => p.1 = row.flowId) = true := by
      obtain ⟨p, hp, heq⟩ := List.mem_map.mp hseen
      exact List.any_eq_true.mpr ⟨p, hp, by simpa using heq⟩
    rw [Analysis.trackLoss, if_pos hany]
    have hkeys : (flows.map fun p => if p.1 = row.flowId then
        (p.1, { p.2 with pkts := p.2.pkts ++ [formPktInfo row] }) else p).map Prod.fst =
        flows.map Prod.fst := by
      rw [List.map_map]
      refine List.map_congr_left fun p _ => ?_
      simp only [Function.comp_apply]
      split_ifs <;> rfl
    refine ⟨by rw [hkeys]; exact h.nodup, ?_, ?_, ?_⟩
    · intro p hp
      obtain ⟨q, hq, rfl⟩ := List.mem_map.mp hp
      by_cases hown : q.1 = row.flowId
      · rw [if_pos hown]
        show q.2.pkts ++ [formPktInfo row] = (pktsOf (rows ++ [row]) q.1).map formPktInfo
        rw [h.pkts q hq, hown, pktsOf_append_self, List.map_append, List.map_singleton]
      · rw [if_neg hown, pktsOf_append_of_ne (Ne.symm hown)]
        exact h.pkts q hq
    · intro p hp
      obtain ⟨q, hq, rfl⟩ := List.mem_map.mp hp
      have htime := h.time q hq
      by_cases hown : q.1 = row.flowId
      · rw [if_pos hown]
        show (pktsOf (rows ++ [row]) q.1).head?.map LostPkt.pktTime = some q.2.time
        obtain ⟨first, hfirst, -⟩ := Option.map_eq_some_iff.mp htime
        rw [hown] at hfirst htime ⊢
        rwa [pktsOf_append_self, List.head?_append, hfirst, Option.some_or, ← hfirst]
      · rw [if_neg hown, pktsOf_append_of_ne (Ne.symm hown)]
        exact htime
    · intro r hr
      rw [hkeys]
      rcases List.mem_append.mp hr with hr | hr
      · exact h.tracked r hr
      · rwa [List.mem_singleton.mp hr]
  · have hany : ¬ (flows.any fun p => p.1 = row.flowId) = true := by
      intro hany
      obtain ⟨p, hp, heq⟩ := List.any_eq_true.mp hany
      exact hseen (List.mem_map.mpr ⟨p, hp, by simpa using heq⟩)
    have hnone : pktsOf rows row.flowId = [] := by
      refine List.filter_eq_nil_iff.mpr fun r hr heq => hseen ?_
      rw [← of_decide_eq_true heq]
      exact h.tracked r hr
    have hne : ∀ p ∈ flows, row.flowId ≠ p.1 := by
      intro p hp heq
      exact hseen (heq ▸ List.mem_map_of_mem hp)
    rw [Analysis.trackLoss, if_neg hany]
    refine ⟨?_, ?_, ?_, ?_⟩
    · rw [List.map_append, List.map_singleton]
      exact h.nodup.append (List.nodup_singleton _) (by simpa using hseen)
    · intro p hp
      rcases List.mem_append.mp hp with hp | hp
      · rw [pktsOf_append_of_ne (hne p hp)]
        exact h.pkts p hp
      · rw [List.mem_singleton.mp hp, pktsOf_append_self, hnone]
        rfl
    · intro p hp
      rcases List.mem_append.mp hp with hp | hp
      · rw [pktsOf_append_of_ne (hne p hp)]
        exact h.time p hp
      · rw [List.mem_singleton.mp hp, pktsOf_append_self, hnone]
        rfl
    · intro r hr
      rw [List.map_append, List.mem_append]
      rcases List.mem_append.mp hr with hr | hr
      · exact .inl (h.tracked r hr)
      · rw [List.mem_singleton.mp hr]
        exact .inr List.mem_cons_self

lemma grouped_foldl (rows : List LostPkt) : Grouped rows (rows.foldl trackLoss []) := by
  induction rows using List.reverseRecOn with
  | nil => exact ⟨List.nodup_nil, by simp, by simp, by simp⟩
  | append_singleton rows row ih =>
    rw [List.foldl_concat]
    exact ih.trackLoss row

/-- An entry of the file.  Everything printed on its line comes from the packets of its flow
alone. -/
structure FlowEntry.Of (rows : List LostPkt) (e : FlowEntry) : Prop where
  time : (pktsOf rows e.flowId).head?.map LostPkt.pktTime = some e.time
  pkts : e.pkts = (pktsOf rows e.flowId).map formPktInfo
  pktCount : e.pktCount = e.pkts.length

lemma of_mem_flushedFlows {rows : List LostPkt} {e : FlowEntry} (h : e ∈ flushedFlows rows) :
    e.Of rows := by
  rw [flushedFlows, List.mem_insertionSort] at h
  obtain ⟨p, hp, hflush⟩ := List.mem_filterMap.mp h
  have hgrouped := grouped_foldl rows
  rw [flushFlow] at hflush
  split_ifs at hflush
  cases hflush
  exact ⟨hgrouped.time p hp, hgrouped.pkts p hp, rfl⟩

/-- A flow that lost data has an entry: it lost more than a SYN. -/
lemma exists_mem_flushedFlows {rows : List LostPkt} {f : ℤ}
    (h : ∃ row ∈ pktsOf rows f, (formPktInfo row).IsData) :
    ∃ e ∈ flushedFlows rows, e.flowId = f := by
  obtain ⟨row, hrow, hdata⟩ := h
  have hgrouped := grouped_foldl rows
  obtain ⟨hmem, hf⟩ := List.mem_filter.mp hrow
  obtain ⟨p, hp, heq⟩ := List.mem_map.mp (hgrouped.tracked row hmem)
  have hown : p.1 = f := heq.trans (of_decide_eq_true hf)
  have hkeep : ¬ (p.2.pkts.length = 1 ∧ p.2.pkts.head?.map PktInfo.type = some .syn) := by
    rintro ⟨hone, hsyn⟩
    obtain ⟨info, hinfo⟩ := List.length_eq_one_iff.mp hone
    have hown' : formPktInfo row ∈ p.2.pkts := by
      rw [hgrouped.pkts p hp, hown]
      exact List.mem_map_of_mem hrow
    rw [hinfo, List.mem_singleton] at hown'
    have htype : (formPktInfo row).type = .syn := by
      rw [hown']
      simpa [hinfo] using hsyn
    simp [PktInfo.IsData, htype] at hdata
  refine ⟨⟨p.2.time, p.1, p.2.pkts.length, p.2.pkts⟩, ?_, hown⟩
  rw [flushedFlows, List.mem_insertionSort]
  exact List.mem_filterMap.mpr ⟨p, hp, if_neg hkeep⟩

lemma flowId_filterMap_flushFlow (flows : LossFlows) :
    ((flows.filterMap flushFlow).map FlowEntry.flowId).Sublist (flows.map Prod.fst) := by
  induction flows with
  | nil => exact List.Sublist.refl _
  | cons p flows ih =>
    rw [List.filterMap_cons, flushFlow]
    split_ifs
    · exact ih.cons _
    · exact ih.cons_cons _

/-- Each flow has one entry.  The keys of the dictionary are, and writing the lines neither drops
nor repeats one. -/
lemma nodup_flushedFlows (rows : List LostPkt) :
    ((flushedFlows rows).map FlowEntry.flowId).Nodup := by
  have hgrouped := grouped_foldl rows
  rw [flushedFlows, ((List.perm_insertionSort _ _).map FlowEntry.flowId).nodup_iff]
  exact (flowId_filterMap_flushFlow _).nodup hgrouped.nodup

/-! ## From the packets to the lists -/

namespace LostPkt

/-- Data, or a packet that is pushed. -/
def IsData (row : LostPkt) : Prop :=
  row.psh = 1 ∨ (row.syn ≠ 1 ∧ row.fin ≠ 1 ∧ row.ack = 1 ∧ row.tcpPayloadLen ≠ 0)

instance (row : LostPkt) : Decidable row.IsData := inferInstanceAs (Decidable (_ ∨ _))

lemma isData_formPktInfo (row : LostPkt) : (formPktInfo row).IsData ↔ row.IsData := by
  simp only [PktInfo.IsData, formPktInfo, IsData]
  split_ifs <;> simp_all

end LostPkt

/-- The sequence numbers of the data that a flow lost. -/
def seqNosLost (rows : List LostPkt) (flowId : ℤ) : List ℤ :=
  ((pktsOf rows flowId).filter LostPkt.IsData).map LostPkt.tcpSeqNoRaw

/-- The time of the first packet that the flow lost. -/
def firstLoss (rows : List LostPkt) (flowId : ℤ) : ℚ :=
  ((pktsOf rows flowId).head?.map LostPkt.pktTime).getD 0

variable {rows : List LostPkt} {e : FlowEntry}

lemma FlowEntry.Of.losesData_iff (h : e.Of rows) :
    e.LosesData ↔ ∃ row ∈ pktsOf rows e.flowId, row.IsData := by
  rw [LosesData, h.pkts]
  simp [LostPkt.isData_formPktInfo]

lemma FlowEntry.Of.lostSeqNos_eq (h : e.Of rows) : e.lostSeqNos = seqNosLost rows e.flowId := by
  rw [lostSeqNos, h.pkts, seqNosLost, List.filter_map, List.map_map]
  have hfilter : (fun b => decide (PktInfo.IsData b)) ∘ formPktInfo =
      fun row => decide row.IsData := by
    funext row
    simp [LostPkt.isData_formPktInfo]
  rw [hfilter]
  rfl

/-- Two numbers are neighbours in a list exactly when it can be cut between them. -/
lemma mem_zip_tail {xs : List ℤ} {a b : ℤ} :
    (a, b) ∈ xs.zip xs.tail ↔ ∃ pre post, xs = pre ++ a :: b :: post := by
  constructor
  · intro h
    induction xs with
    | nil => simp at h
    | cons x xs ih =>
      cases xs with
      | nil => simp at h
      | cons y ys =>
        rw [List.tail_cons, List.zip_cons_cons, List.mem_cons, Prod.mk.injEq] at h
        rcases h with ⟨rfl, rfl⟩ | h
        · exact ⟨[], ys, rfl⟩
        · obtain ⟨pre, post, heq⟩ := ih h
          exact ⟨x :: pre, post, by rw [heq, List.cons_append]⟩
  · rintro ⟨pre, post, rfl⟩
    induction pre with
    | nil => simp
    | cons x pre ih =>
      cases pre <;> simp_all

/-- Raw sequence numbers have 32 bits, and the distance wraps around. -/
lemma consecutive_iff {a b : ℤ} (ha : 0 ≤ a ∧ a < 2 ^ 32) (hb : 0 ≤ b ∧ b < 2 ^ 32) :
    consecutive mssBytes a b = true ↔ 0 < (b - a) % 2 ^ 32 ∧ (b - a) % 2 ^ 32 ≤ mssBytes := by
  have hmod : (if b - a < 0 then b - a + 2 ^ 32 else b - a) = (b - a) % 2 ^ 32 := by
    split_ifs <;> omega
  simp only [consecutive, hmod, decide_eq_true_iff]

lemma FlowEntry.Of.time_eq (h : e.Of rows) : e.time = firstLoss rows e.flowId := by
  rw [firstLoss, h.time, Option.getD_some]

/-- The lines are in the order of the first losses. -/
lemma pairwise_flushedFlows (rows : List LostPkt) :
    (flushedFlows rows).Pairwise fun a b => a.time ≤ b.time := by
  have : Std.Total fun a b : FlowEntry => a.time ≤ b.time := ⟨fun a b => le_total a.time b.time⟩
  have : IsTrans FlowEntry fun a b => a.time ≤ b.time := ⟨fun _ _ _ => le_trans⟩
  exact List.pairwise_insertionSort _ _

lemma checkForConsecutiveDataLoss_iff {f : ℤ}
    (hseq : ∀ row ∈ rows, 0 ≤ row.tcpSeqNoRaw ∧ row.tcpSeqNoRaw < 2 ^ 32) :
    checkForConsecutiveDataLoss mssBytes (seqNosLost rows f) = true ↔
      ∃ pre a b post, seqNosLost rows f = pre ++ a :: b :: post ∧
        0 < (b - a) % 2 ^ 32 ∧ (b - a) % 2 ^ 32 ≤ mssBytes := by
  have hrange : ∀ n ∈ seqNosLost rows f, 0 ≤ n ∧ n < 2 ^ 32 := by
    intro n hn
    obtain ⟨row, hrow, rfl⟩ := List.mem_map.mp hn
    exact hseq row (mem_pktsOf.mp (List.mem_of_mem_filter hrow)).1
  rw [checkForConsecutiveDataLoss, List.any_eq_true]
  constructor
  · rintro ⟨⟨a, b⟩, hmem, hcons⟩
    obtain ⟨pre, post, heq⟩ := mem_zip_tail.mp hmem
    have ha := hrange a (by simp [heq])
    have hb := hrange b (by simp [heq])
    exact ⟨pre, a, b, post, heq, (consecutive_iff ha hb).mp hcons⟩
  · rintro ⟨pre, a, b, post, heq, hnear⟩
    have ha := hrange a (by simp [heq])
    have hb := hrange b (by simp [heq])
    exact ⟨(a, b), mem_zip_tail.mpr ⟨pre, post, heq⟩, (consecutive_iff ha hb).mpr hnear⟩

lemma exists_entry {f : ℤ} (h : ∃ row ∈ rows, row.flowId = f ∧ row.IsData) :
    ∃ e ∈ flushedFlows rows, e.flowId = f := by
  obtain ⟨row, hrow, hf, hdata⟩ := h
  exact exists_mem_flushedFlows
    ⟨row, mem_pktsOf.mpr ⟨hrow, hf⟩, (row.isData_formPktInfo).mpr hdata⟩

lemma mem_map_losesData_iff {f : ℤ} :
    f ∈ ((flushedFlows rows).filter FlowEntry.LosesData).map FlowEntry.flowId ↔
      ∃ row ∈ rows, row.flowId = f ∧ row.IsData := by
  constructor
  · intro hf
    obtain ⟨e, he, rfl⟩ := List.mem_map.mp hf
    obtain ⟨hmem, hdata⟩ := List.mem_filter.mp he
    obtain ⟨row, hrow, hlost⟩ :=
      (of_mem_flushedFlows hmem).losesData_iff.mp (of_decide_eq_true hdata)
    obtain ⟨hin, hf⟩ := mem_pktsOf.mp hrow
    exact ⟨row, hin, hf, hlost⟩
  · intro hlost
    obtain ⟨e, he, rfl⟩ := exists_entry hlost
    obtain ⟨row, hrow, hf, hdata⟩ := hlost
    refine List.mem_map_of_mem (List.mem_filter.mpr ⟨he, decide_eq_true ?_⟩)
    exact (of_mem_flushedFlows he).losesData_iff.mpr ⟨row, mem_pktsOf.mpr ⟨hrow, hf⟩, hdata⟩

lemma nodup_map_losesData (rows : List LostPkt) :
    (((flushedFlows rows).filter FlowEntry.LosesData).map FlowEntry.flowId).Nodup :=
  ((List.filter_sublist).map _).nodup (nodup_flushedFlows rows)

/-- **The file says which flows lost data.**  What is read of the file that was written for the lost
packets are the flows that lost data, each once and by the time of its first loss, and those that
lost a packet longer than a segment or two packets `a` and `b` in succession with
`0 < (b - a) mod 2 ^ 32 ≤` a segment. -/
theorem affected_flows_round_trip (mssBytes : ℤ) (rows : List LostPkt)
    (hseq : ∀ row ∈ rows, 0 ≤ row.tcpSeqNoRaw ∧ row.tcpSeqNoRaw < 2 ^ 32) :
    ∃ loaded, loadAffectedFlows mssBytes (affectedFlowsFile rows) = some loaded ∧
      loaded.affectedFlows.Nodup ∧
      (∀ f, f ∈ loaded.affectedFlows ↔ ∃ row ∈ rows, row.flowId = f ∧ row.IsData) ∧
      loaded.affectedFlows.Pairwise (fun f g => firstLoss rows f ≤ firstLoss rows g) ∧
      ∀ f, f ∈ loaded.affectedFlowsConsecutiveLoss ↔
        (∃ row ∈ rows, row.flowId = f ∧ row.IsData ∧ row.tcpPayloadLen > mssBytes) ∨
          ∃ pre a b post, seqNosLost rows f = pre ++ a :: b :: post ∧
            0 < (b - a) % 2 ^ 32 ∧ (b - a) % 2 ^ 32 ≤ mssBytes := by
  obtain ⟨loaded, hload, haffected, hcons⟩ := exists_loadAffectedFlows mssBytes rows
    fun e he => (of_mem_flushedFlows he).pktCount
  refine ⟨loaded, hload, ?_, fun f => ?_, ?_, fun f => ?_⟩
  · rw [haffected]
    exact nodup_map_losesData rows
  · rw [haffected, mem_map_losesData_iff]
  · rw [haffected, List.pairwise_map]
    refine List.Pairwise.filter _ ((pairwise_flushedFlows rows).imp_of_mem fun ha hb hle => ?_)
    rwa [← (of_mem_flushedFlows ha).time_eq, ← (of_mem_flushedFlows hb).time_eq]
  · rw [hcons, ← checkForConsecutiveDataLoss_iff hseq]
    constructor
    · rintro ⟨e, he, rfl, hloss⟩
      have hof := of_mem_flushedFlows he
      rw [FlowEntry.ConsecutiveLoss, hof.lostSeqNos_eq, hof.pkts] at hloss
      refine hloss.imp (fun ⟨info, hinfo, hdata, hlong⟩ => ?_) id
      obtain ⟨row, hrow, rfl⟩ := List.mem_map.mp hinfo
      obtain ⟨hin, hf⟩ := mem_pktsOf.mp hrow
      exact ⟨row, hin, hf, row.isData_formPktInfo.mp hdata, hlong⟩
    · intro hloss
      have hlost : ∃ row ∈ rows, row.flowId = f ∧ row.IsData := by
        rcases hloss with ⟨row, hrow, hf, hdata, -⟩ | hcheck
        · exact ⟨row, hrow, hf, hdata⟩
        · have hne : seqNosLost rows f ≠ [] := by
            rintro hnil
            rw [hnil] at hcheck
            cases hcheck
          obtain ⟨n, hn⟩ := List.exists_mem_of_ne_nil _ hne
          obtain ⟨row, hrow, -⟩ := List.mem_map.mp hn
          obtain ⟨hmem, hdata⟩ := List.mem_filter.mp hrow
          obtain ⟨hin, hf⟩ := mem_pktsOf.mp hmem
          exact ⟨row, hin, hf, of_decide_eq_true hdata⟩
      obtain ⟨e, he, rfl⟩ := exists_entry hlost
      have hof := of_mem_flushedFlows he
      refine ⟨e, he, rfl, ?_⟩
      rw [FlowEntry.ConsecutiveLoss, hof.lostSeqNos_eq, hof.pkts]
      refine hloss.imp (fun ⟨row, hrow, hf, hdata, hlong⟩ => ?_) id
      exact ⟨formPktInfo row, List.mem_map_of_mem (mem_pktsOf.mpr ⟨hrow, hf⟩),
        row.isData_formPktInfo.mpr hdata, hlong⟩

/-- A lost packet of port `flowId` with these flags, payload and sequence number. -/
def LostPkt.of (flowId syn ack tcpPayloadLen tcpSeqNoRaw : ℤ) : LostPkt :=
  ⟨flowId, 0, 100, 1, ack, 0, syn, 0, tcpPayloadLen, tcpSeqNoRaw⟩

/-- The two packets of port 7 are neighbours across the end of the sequence numbers; port 8 lost its
SYN only. -/
theorem affected_flows_round_trip_wrap : ∃ loaded,
    loadAffectedFlows 1460 (affectedFlowsFile
      [.of 7 0 1 1460 4294966296, .of 8 1 0 0 5, .of 7 0 1 1460 460]) = some loaded ∧
      7 ∈ loaded.affectedFlowsConsecutiveLoss ∧ 8 ∉ loaded.affectedFlows := by
  obtain ⟨loaded, hload, -, hdata, -, hcons⟩ := affected_flows_round_trip 1460
    [.of 7 0 1 1460 4294966296, .of 8 1 0 0 5, .of 7 0 1 1460 460] (by decide)
  refine ⟨loaded, hload, (hcons 7).mpr (.inr ⟨[], 4294966296, 460, [], ?_, ?_⟩), ?_⟩
  · decide
  · decide
  · rw [hdata 8]
    decide

end LinkGuardian.Analysis
