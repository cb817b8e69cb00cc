import Mathlib.Data.Sym.Sym2
import Mathlib.Tactic.Ring
import Netsim.Lib.KeyedStore
import Netsim.Udp.Responses

/-!
# Performance table

The table holds the performance of each pair of modems, in the order in which the modems are
configured. A response reports on pairs in either order, and each of its receivers is written to all
entries of its pair; a reader takes the first entry of a pair. So the table is a map from unordered
pairs to the performance that was reported last, whatever modems are configured
(`exists_after_lastReported`).
-/

namespace Netsim

open KeyedStore

/-- The pair of modems an entry is about. -/
def ModemPairPerformance.pair (p : ModemPairPerformance) : Sym2 ℤ := s(p.srcId, p.destId)

theorem ModemPairPerformance.isPair_iff (p : ModemPairPerformance) (srcId destId : ℤ) :
    p.isPair srcId destId ↔ s(srcId, destId) = p.pair := by
  simp [isPair, pair, and_comm]

namespace NetSimUDP

variable {ε : Type}

/-- What a response reports, receiver by receiver: a pair and its mpp. -/
def reports (cfg : NetSimUDPConfig ε) (r : ObjFuncResponse) : List (Sym2 ℤ × ℚ) :=
  match cfg.tcpPortToId r.contact with
  | none => []
  | some srcId => r.receiver.filterMap fun receiver =>
      (cfg.tcpPortToId receiver.1).map fun destId => (s(srcId, destId), receiver.2)

/-- The mpp of a report, if it is about a pair. -/
def mppOf (pair : Sym2 ℤ) (report : Sym2 ℤ × ℚ) : Option ℚ :=
  if report.1 = pair then some report.2 else none

/-- The mpp that some responses report last for a pair, or 80. -/
def lastReported (cfg : NetSimUDPConfig ε) (rs : List ObjFuncResponse) (pair : Sym2 ℤ) : ℚ :=
  lastSet (mppOf pair) 80 (rs.flatMap (reports cfg))

/-- All modems of a response are configured. -/
def NamesConfigured (cfg : NetSimUDPConfig ε) (r : ObjFuncResponse) : Prop :=
  (cfg.tcpPortToId r.contact).isSome ∧
    ∀ receiver ∈ r.receiver, (cfg.tcpPortToId receiver.1).isSome

/-- Two modems form a pair of the table. -/
def InTable (s : NetSimUDP ε) (a b : ℤ) : Prop := ∃ p ∈ s.perfTable, p.isPair a b

/-! ### The table -/

section Table

variable {cfg : NetSimUDPConfig ε} {s s' : NetSimUDP ε} {rs : List ObjFuncResponse}

/-- The report of an entry is the last one about its pair. -/
theorem getD_reportedMpp {r : ObjFuncResponse} {srcId : ℤ}
    (hsrc : cfg.tcpPortToId r.contact = some srcId) (p : ModemPairPerformance) :
    (reportedMpp cfg r.receiver srcId p).getD p.mpp =
      lastSet (mppOf p.pair) p.mpp (reports cfg r) := by
  rw [lastSet, reports, hsrc, reportedMpp, List.filterMap_filterMap, ← List.getLast?_map]
  congr 2
  induction r.receiver with
  | nil => rfl
  | cons receiver receivers ih =>
      rw [List.filter_cons, List.filterMap_cons, ← ih]
      cases cfg.tcpPortToId receiver.1 with
      | none => rfl
      | some destId =>
          by_cases hpair : s(srcId, destId) = p.pair
          · simp [mppOf, hpair, (p.isPair_iff srcId destId).2 hpair]
          · have hnot : ¬ p.isPair srcId destId := mt (p.isPair_iff srcId destId).1 hpair
            simp [mppOf, hpair, hnot]

/-- The table after some reports. -/
def updated (table : List ModemPairPerformance) (reported : List (Sym2 ℤ × ℚ)) :
    List ModemPairPerformance :=
  table.map fun p => { p with mpp := lastSet (mppOf p.pair) p.mpp reported }

theorem updated_append (table : List ModemPairPerformance)
    (reported reported' : List (Sym2 ℤ × ℚ)) :
    updated table (reported ++ reported') = updated (updated table reported) reported' := by
  simp only [updated, List.map_map]
  refine List.map_congr_left fun p _ => ?_
  rw [lastSet_append]
  rfl

/-- A response whose modems are configured updates the table. -/
theorem exists_processPerformanceResponse_updated (hmpp : cfg.packetSuccessMethod = .MPP)
    (s : NetSimUDP ε) {r : ObjFuncResponse} (hnames : NamesConfigured cfg r) :
    ∃ s', s.processPerformanceResponse cfg r = some s' ∧
      s'.perfTable = updated s.perfTable (reports cfg r) := by
  obtain ⟨srcId, hsrc⟩ := Option.isSome_iff_exists.1 hnames.1
  have hhandled : Handled cfg s (.performanceResponse r) :=
    performanceResponse_handled_iff.2 fun _ _ => hnames.2
  obtain ⟨s', hs', htable⟩ := hhandled hmpp
  refine ⟨s', hs', htable.trans ?_⟩
  simp only [hsrc, reportedTable, updated]
  exact List.map_congr_left fun p _ => by rw [getD_reportedMpp hsrc]

/-- The table after some responses, from any state on. -/
theorem exists_exec_updated [DecidableEq ε] (hmpp : cfg.packetSuccessMethod = .MPP)
    (s : NetSimUDP ε) (hnames : ∀ r ∈ rs, NamesConfigured cfg r) :
    ∃ s', Run.exec (step cfg) s (rs.map .performanceResponse) = some s' ∧
      s'.perfTable = updated s.perfTable (rs.flatMap (reports cfg)) := by
  induction rs using List.reverseRecOn with
  | nil => exact ⟨s, rfl, by simp [updated]⟩
  | append_singleton rs r ih =>
      rw [List.forall_mem_append, List.forall_mem_singleton] at hnames
      obtain ⟨s₁, hs₁, htable₁⟩ := ih hnames.1
      obtain ⟨s₂, hs₂, htable₂⟩ :=
        exists_processPerformanceResponse_updated hmpp s₁ hnames.2
      refine ⟨s₂, ?_, ?_⟩
      · rw [List.map_append, List.map_singleton]
        refine (Run.exec_concat_eq_some _ _).2 ⟨s₁, hs₁, ?_⟩
        rw [step, if_pos hmpp, hs₂]
      · rw [htable₂, htable₁, ← updated_append, List.flatMap_append, List.flatMap_singleton]

/-- An update does not change which pairs are in the table. -/
theorem inTable_iff_of_updated {reported : List (Sym2 ℤ × ℚ)}
    (h : s'.perfTable = updated s.perfTable reported) (a b : ℤ) :
    InTable s' a b ↔ InTable s a b := by
  simp [InTable, h, updated, ModemPairPerformance.isPair]

end Table

/-! ### The probabilities -/

section Probability

variable {cfg : NetSimUDPConfig ε} {s s' : NetSimUDP ε} {rs : List ObjFuncResponse}

/-- The probability of a pair is that of the first entry about it. -/
theorem mppTransmitProbability_comm (s : NetSimUDP ε) (a b : ℤ) :
    s.mppTransmitProbability a b = s.mppTransmitProbability b a := by
  have hcomm : (fun p : ModemPairPerformance => p.isPair a b) = (·.isPair b a) := by
    funext p
    rw [Bool.eq_iff_iff, p.isPair_iff, p.isPair_iff, Sym2.eq_swap]
  rw [mppTransmitProbability, mppTransmitProbability, hcomm]

/-- Reports on other pairs do not change the probability of a pair. -/
theorem mppTransmitProbability_of_other {reported : List (Sym2 ℤ × ℚ)}
    (h : s'.perfTable = updated s.perfTable reported) {a b : ℤ}
    (hother : ∀ report ∈ reported, report.1 ≠ s(a, b)) :
    s'.mppTransmitProbability a b = s.mppTransmitProbability a b := by
  have hkeeps : ∀ p : ModemPairPerformance, p.isPair a b →
      lastSet (mppOf p.pair) p.mpp reported = p.mpp := fun p hp =>
    lastSet_of_forall_eq_none fun report hreport =>
      if_neg fun heq => hother report hreport (heq.trans ((p.isPair_iff a b).1 hp).symm)
  rw [mppTransmitProbability, mppTransmitProbability, h, updated, List.find?_map]
  -- an update does not change which entry is found
  have hfind : (fun p : ModemPairPerformance => p.isPair a b) ∘
      (fun p : ModemPairPerformance =>
        { p with mpp := lastSet (mppOf p.pair) p.mpp reported }) = (·.isPair a b) := rfl
  rw [hfind]
  cases hp : s.perfTable.find? (·.isPair a b) with
  | none => rfl
  | some p =>
      have hpair : p.isPair a b := by simpa using List.find?_some hp
      simp [ModemPairPerformance.mppProbab, hkeeps p hpair]

/-- As constructed, all pairs have an mpp of 80. -/
theorem mpp_of_mem_perfTable {p : ModemPairPerformance} (hp : p ∈ cfg.perfTable) : p.mpp = 80 := by
  rw [NetSimUDPConfig.perfTable] at hp
  split_ifs at hp
  · obtain ⟨modem, -, hp⟩ := List.mem_flatMap.1 hp
    obtain ⟨earlier, -, rfl⟩ := List.mem_map.1 hp
    rfl
  · simp at hp

/-- The probability of a pair of the table is that of its last report. -/
theorem mppTransmitProbability_of_inTable
    (h : s.perfTable = updated cfg.perfTable (rs.flatMap (reports cfg))) {a b : ℤ}
    (hin : InTable s a b) : s.mppTransmitProbability a b =
      min 1 (max 0 (((lastReported cfg rs s(a, b) - 30) * 8 / 5 + 20) / 100)) := by
  have hsome : (s.perfTable.find? (·.isPair a b)).isSome := by simpa [InTable] using hin
  obtain ⟨p, hp⟩ := Option.isSome_iff_exists.1 hsome
  have hpair : s(a, b) = p.pair := (p.isPair_iff a b).1 (by simpa using List.find?_some hp)
  -- the entry is one of the constructed table, updated
  have hmem := List.mem_of_find?_eq_some hp
  rw [h, updated, List.mem_map] at hmem
  obtain ⟨q, hq, rfl⟩ := hmem
  have hmpp : lastSet (mppOf q.pair) q.mpp (rs.flatMap (reports cfg)) =
      lastReported cfg rs s(a, b) := by
    rw [mpp_of_mem_perfTable hq, hpair]
    rfl
  have hscale (m : ℚ) : (m - 30) * 80 / 50 = (m - 30) * 8 / 5 := by ring
  rw [mppTransmitProbability, hp]
  simp only [ModemPairPerformance.mppProbab, hmpp, hscale]
  rw [max_min_distrib_left, max_eq_right zero_le_one]

/-- Every two modems at different places of the configuration are in the table. -/
theorem inTable_of_lt (hmpp : cfg.packetSuccessMethod = .MPP) {i j : ℕ} (hlt : j < i)
    {modem earlier : ModemEndPoint ε} (hi : cfg.modem[i]? = some modem)
    (hj : cfg.modem[j]? = some earlier) :
    ∃ p ∈ cfg.perfTable, p.pair = s(modem.id, earlier.id) := by
  refine ⟨⟨modem.id, earlier.id, 80⟩, ?_, by simp only [ModemPairPerformance.pair]⟩
  rw [NetSimUDPConfig.perfTable, if_pos hmpp, List.mem_flatMap]
  refine ⟨(modem, i), List.mem_zipIdx_iff_getElem?.2 hi, List.mem_map_of_mem ?_⟩
  exact List.mem_of_getElem? ((List.getElem?_take_of_lt hlt).trans hj)

theorem exists_pair_of_mem (hmpp : cfg.packetSuccessMethod = .MPP)
    {modem modem' : ModemEndPoint ε} (hmem : modem ∈ cfg.modem) (hmem' : modem' ∈ cfg.modem)
    (hne : modem.id ≠ modem'.id) : ∃ p ∈ cfg.perfTable, p.pair = s(modem.id, modem'.id) := by
  obtain ⟨i, hi⟩ := List.mem_iff_getElem?.1 hmem
  obtain ⟨j, hj⟩ := List.mem_iff_getElem?.1 hmem'
  rcases Nat.lt_trichotomy j i with hlt | rfl | hlt
  · exact inTable_of_lt hmpp hlt hi hj
  · rw [hi, Option.some_inj] at hj
    exact absurd (congrArg ModemEndPoint.id hj) hne
  · rw [Sym2.eq_swap]
    exact inTable_of_lt hmpp hlt hj hi

/-- After any responses the table is a map from unordered pairs of modems to the performance that
was reported last, of which a further response changes only the pairs it reports on. -/
theorem exists_after_lastReported [DecidableEq ε] (cfg : NetSimUDPConfig ε)
    (hmpp : cfg.packetSuccessMethod = .MPP) (rs : List ObjFuncResponse)
    (hnames : ∀ r ∈ rs, NamesConfigured cfg r) :
    ∃ s, after cfg (rs.map .performanceResponse) = some s ∧
      (∀ a b, InTable s a b →
        s.mppTransmitProbability a b =
            min 1 (max 0 (((lastReported cfg rs s(a, b) - 30) * 8 / 5 + 20) / 100)) ∧
          s.mppTransmitProbability b a = s.mppTransmitProbability a b) ∧
      (∀ modem ∈ cfg.modem, ∀ modem' ∈ cfg.modem, modem.id ≠ modem'.id →
        InTable s modem.id modem'.id) ∧
      ∀ r s', NamesConfigured cfg r → step cfg s (.performanceResponse r) = some s' →
        ∀ a b, (∀ report ∈ reports cfg r, report.1 ≠ s(a, b)) →
          s'.mppTransmitProbability a b = s.mppTransmitProbability a b := by
  obtain ⟨s, hs, htable⟩ := exists_exec_updated hmpp { perfTable := cfg.perfTable } hnames
  have hinit : init cfg = some { perfTable := cfg.perfTable } := by simp [init, hmpp]
  refine ⟨s, by rw [after, hinit, Option.bind_some, hs], fun a b hin => ?_,
    fun modem hmem modem' hmem' hne => ?_, fun r s' hr hs' a b hother => ?_⟩
  · exact ⟨mppTransmitProbability_of_inTable htable hin, mppTransmitProbability_comm s b a⟩
  · rw [inTable_iff_of_updated htable]
    obtain ⟨p, hp, hpair⟩ := exists_pair_of_mem hmpp hmem hmem' hne
    exact ⟨p, hp, (p.isPair_iff _ _).2 hpair.symm⟩
  · obtain ⟨t, ht, hupdated⟩ := exists_processPerformanceResponse_updated hmpp s hr
    rw [step, if_pos hmpp] at hs'
    obtain rfl : t = s' := Option.some_inj.1 (ht.symm.trans hs')
    exact mppTransmitProbability_of_other hupdated hother

/-- Three modems, two of which have the same id: the second report on the pair counts, which comes
from the other modem. -/
theorem exists_after_lastReported_of_two_reports :
    let cfg : NetSimUDPConfig ℕ :=
      { modem := [⟨62000, 1, 10⟩, ⟨62001, 2, 20⟩, ⟨62002, 2, 30⟩], packetSuccessMethod := .MPP,
        broadcastId := 0, linearInterpolate := fun _ _ => 0,
        microTime := fun seconds => (seconds * 1000000).floor }
    let rs : List ObjFuncResponse := [⟨"62000", [("62001", 50)]⟩, ⟨"62002", [("62000", 30)]⟩]
    lastReported cfg rs s(1, 2) = 30 ∧ lastReported cfg rs s(2, 2) = 80 ∧
      ∃ s, after cfg (rs.map .performanceResponse) = some s ∧
        ∀ a b, InTable s a b → s.mppTransmitProbability a b =
          min 1 (max 0 (((lastReported cfg rs s(a, b) - 30) * 8 / 5 + 20) / 100)) := by
  intro cfg rs
  have hnames : ∀ r ∈ rs, NamesConfigured cfg r := by
    simp only [rs, List.forall_mem_cons, NamesConfigured]
    decide +kernel
  obtain ⟨s, hs, hprobability, -⟩ := exists_after_lastReported cfg rfl rs hnames
  exact ⟨by decide +kernel, by decide +kernel, s, hs, fun a b hin => (hprobability a b hin).1⟩

end Probability

end NetSimUDP

end Netsim
