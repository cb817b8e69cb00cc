import Netsim.Lib.LastWrite
import Netsim.Liaison.Model

/-!
# What is painted when

In every run, a painting shows the vehicles where they were at the start before the last one of the
transmitter, each with the last statistics of its reception; the positions of a start are shown once
at most (`paints_after`). A response of iBellhop begins anew, whoever requested it.
-/

namespace Netsim

namespace LiaisonNetsim

open Run

/-- A packet of the transmitter starts. -/
def Starts (tx : Int32) (s : LiaisonNetsim) (e : LiaisonEvent) : Prop :=
  ∃ event, e = .newLog event ∧ event.event = .PACKET_START ∧ s.startPort event = some (some tx)

/-- A response comes. -/
def Responds (e : LiaisonEvent) : Prop := ∃ resp, e = .bellhopResp resp

/-- The marks around the transmitter are drawn. -/
def Draws (tx : Int32) (s : LiaisonNetsim) (e : LiaisonEvent) : Prop :=
  e = .paint ∧ s.transmitterTcpPort = tx ∧ tx ∈ s.navAtPreviousTxStart tx

/-- The position of a vehicle that an event brings. -/
def navUpdate (port : Int32) : LiaisonEvent → Option NavUpdate
  | .updatedNav update => if update.nav.modemTcpPort.getD 0 = port then some update.nav else none
  | _ => none

/-- The last position of a vehicle. -/
def lastNavOf (port : Int32) (es : List LiaisonEvent) : Option NavUpdate :=
  (es.filterMap (navUpdate port)).getLast?

/-- The statistics of a receiver come. -/
def Reports (tx rx : Int32) (e : LiaisonEvent) : Prop :=
  ∃ stats : ReceiveStats, e = .receiveStats stats ∧ stats.txModemTcpPort.getD 0 = tx ∧
    stats.modemTcpPort.getD 0 = rx

/-! ### What the handlers do -/

section Handlers

variable {mmStats : List UInt8 → ReceiveStatistics} {s s' : LiaisonNetsim} {e : LiaisonEvent}
  {tx : Int32}

/-- A logger event starts a packet, or changes no more than the panels. -/
theorem handleNewLog_cases {event : LoggerEvent} (h : s.handleNewLog event = some s') :
    (∃ tcpPort, Starts tcpPort s (.newLog event) ∧
      s' = { s with
        navAtPreviousTxStart :=
          Function.update s.navAtPreviousTxStart tcpPort (s.navAtLastTxStart tcpPort)
        navAtLastTxStart := Function.update s.navAtLastTxStart tcpPort s.lastNav }) ∨
    (∀ tcpPort, ¬ Starts tcpPort s (.newLog event)) ∧
      ∃ spect timeseries, s' = { s with spectPanel := spect, timeseriesPanel := timeseries } := by
  unfold handleNewLog at h
  split at h
  next hclosed =>
    refine .inr ⟨?_, _, _, (Option.some_inj.1 h).symm⟩
    rintro tcpPort ⟨_, ⟨⟩, hstart, -⟩
    cases hclosed.symm.trans hstart
  next hstart =>
    obtain ⟨port, hport, rfl⟩ := Option.map_eq_some_iff.1 h
    cases port with
    | some tcpPort => exact .inl ⟨tcpPort, ⟨event, rfl, hstart, hport⟩, rfl⟩
    | none =>
        refine .inr ⟨?_, s.spectPanel, s.timeseriesPanel, rfl⟩
        rintro tcpPort ⟨_, ⟨⟩, -, hsome⟩
        cases hport.symm.trans hsome

/-- The packet that starts is of one transmitter. -/
theorem Starts.eq {tx' : Int32} {e : LiaisonEvent} (h : Starts tx s e) (h' : Starts tx' s e) :
    tx = tx' := by
  obtain ⟨event, rfl, -, hport⟩ := h
  obtain ⟨_, ⟨⟩, -, hport'⟩ := h'
  simpa using hport.symm.trans hport'

/-- A painting draws marks and lets go of their positions and statistics, or neither. -/
theorem paintEvent_cases (mmStats : List UInt8 → ReceiveStatistics) (s : LiaisonNetsim) :
    (Draws s.transmitterTcpPort s .paint ∧ (s.paintEvent mmStats).2 =
      { s with
        tlImagePath := ""
        navAtPreviousTxStart := Function.update s.navAtPreviousTxStart s.transmitterTcpPort ∅
        receiveStats := Function.update s.receiveStats s.transmitterTcpPort ∅ }) ∨
    (∀ tx, ¬ Draws tx s .paint) ∧ (s.paintEvent mmStats).2 = { s with tlImagePath := "" } := by
  rw [paintEvent]
  cases hnav : (s.navAtPreviousTxStart s.transmitterTcpPort).lookup s.transmitterTcpPort with
  | some txNav =>
      refine .inl ⟨⟨rfl, rfl, ?_⟩, by simp only⟩
      exact AList.lookup_isSome.1 (hnav ▸ rfl)
  | none =>
      refine .inr ⟨?_, by simp only⟩
      rintro tx ⟨-, rfl, hmem⟩
      exact AList.lookup_eq_none.1 hnav hmem

/-- A click changes the inputs, or nothing. -/
theorem clicked_cases {item : ℕ} {inputs : TLInputs} (h : s.clicked item inputs = some s') :
    ∃ transmitter inputs enabled, s' =
      { s with
        transmitterTcpPort := transmitter
        inputs := inputs
        tlRequestEnabled := enabled } := by
  unfold clicked at h
  split_ifs at h
  · obtain ⟨transmitter, -, rfl⟩ := Option.map_eq_some_iff.1 h
    exact ⟨transmitter, inputs, false, rfl⟩
  · obtain rfl := Option.some_inj.1 h
    exact ⟨s.transmitterTcpPort, s.inputs, s.tlRequestEnabled, rfl⟩

/-- The statistics after new ones have come. -/
theorem receiveStats_handleReceiveStats (stats : ReceiveStats) :
    (s.handleReceiveStats stats).receiveStats =
      Function.update s.receiveStats (stats.txModemTcpPort.getD 0)
        ((s.receiveStats (stats.txModemTcpPort.getD 0)).insert (stats.modemTcpPort.getD 0) stats) :=
  rfl

/-- What an event leaves. -/
structure Keeps (tx : Int32) (s : LiaisonNetsim) (e : LiaisonEvent) (s' : LiaisonNetsim) :
    Prop where
  /-- The positions at the last start. -/
  last : ¬ Starts tx s e → ¬ Responds e → s'.navAtLastTxStart tx = s.navAtLastTxStart tx
  /-- The positions at the start before. -/
  previous : ¬ Starts tx s e → ¬ Responds e → ¬ Draws tx s e →
    s'.navAtPreviousTxStart tx = s.navAtPreviousTxStart tx
  /-- The statistics. -/
  stats : ∀ rx, ¬ Reports tx rx e → ¬ Responds e → ¬ Draws tx s e →
    (s'.receiveStats tx).lookup rx = (s.receiveStats tx).lookup rx
  /-- The last positions. -/
  nav : ∀ port, navUpdate port e = none → s'.lastNav.lookup port = s.lastNav.lookup port
  /-- The image. -/
  image : ¬ Responds e → e ≠ .paint → s'.tlImagePath = s.tlImagePath

theorem keeps_step (tx : Int32) (h : s.step mmStats e = some s') : Keeps tx s e s' := by
  cases e with
  | newLog event =>
      rcases handleNewLog_cases h with ⟨tcpPort, hstarts, rfl⟩ | ⟨-, _, _, rfl⟩
      · have hne (hno : ¬ Starts tx s (.newLog event)) : tx ≠ tcpPort := by
          rintro rfl
          exact hno hstarts
        exact ⟨fun hno _ => Function.update_of_ne (hne hno) .., fun hno _ _ =>
          Function.update_of_ne (hne hno) .., fun _ _ _ _ => rfl, fun _ _ => rfl, fun _ _ => rfl⟩
      · exact ⟨fun _ _ => rfl, fun _ _ _ => rfl, fun _ _ _ _ => rfl, fun _ _ => rfl, fun _ _ => rfl⟩
  | bellhopResp resp =>
      cases h
      have hresponds : Responds (.bellhopResp resp) := ⟨resp, rfl⟩
      exact ⟨fun _ hno => absurd hresponds hno, fun _ hno => absurd hresponds hno,
        fun _ _ hno => absurd hresponds hno, fun _ _ => rfl, fun hno => absurd hresponds hno⟩
  | managerCfg cfg =>
      cases h
      exact ⟨fun _ _ => rfl, fun _ _ _ => rfl, fun _ _ _ _ => rfl, fun _ _ => rfl, fun _ _ => rfl⟩
  | updatedNav update =>
      cases h
      refine ⟨fun _ _ => rfl, fun _ _ _ => rfl, fun _ _ _ _ => rfl, fun port hport => ?_,
        fun _ _ => rfl⟩
      refine AList.lookup_insert_ne ?_
      rintro rfl
      simp [navUpdate] at hport
  | receiveStats stats =>
      cases h
      refine ⟨fun _ _ => rfl, fun _ _ _ => rfl, fun rx hreports _ _ => ?_, fun _ _ => rfl,
        fun _ _ => rfl⟩
      by_cases htx : tx = stats.txModemTcpPort.getD 0
      · obtain rfl := htx
        rw [receiveStats_handleReceiveStats, Function.update_self]
        refine AList.lookup_insert_ne ?_
        rintro rfl
        exact hreports ⟨stats, rfl, rfl, rfl⟩
      · rw [receiveStats_handleReceiveStats, Function.update_of_ne htx]
  | clicked item inputs id =>
      obtain ⟨_, _, _, rfl⟩ := clicked_cases h
      exact ⟨fun _ _ => rfl, fun _ _ _ => rfl, fun _ _ _ _ => rfl, fun _ _ => rfl, fun _ _ => rfl⟩
  | paint =>
      cases h
      rcases paintEvent_cases mmStats s with ⟨hdraws, heq⟩ | ⟨-, heq⟩ <;> rw [heq]
      · have hne (hno : ¬ Draws tx s .paint) : tx ≠ s.transmitterTcpPort := by
          rintro rfl
          exact hno hdraws
        exact ⟨fun _ _ => rfl, fun _ _ hno => Function.update_of_ne (hne hno) ..,
          fun rx _ _ hno => congrArg (AList.lookup rx) (Function.update_of_ne (hne hno) ..),
          fun _ _ => rfl, fun _ hpaint => absurd rfl hpaint⟩
      · exact ⟨fun _ _ => rfl, fun _ _ _ => rfl, fun _ _ _ _ => rfl, fun _ _ => rfl,
          fun _ hpaint => absurd rfl hpaint⟩

/-- A start keeps the last positions, after those of the start before have moved on. -/
theorem Starts.step (hstart : Starts tx s e) (h : s.step mmStats e = some s') :
    s'.navAtLastTxStart tx = s.lastNav ∧ s'.navAtPreviousTxStart tx = s.navAtLastTxStart tx := by
  obtain ⟨event, rfl, hevent⟩ := hstart
  rcases handleNewLog_cases h with ⟨tcpPort, hstarts, rfl⟩ | ⟨hnone, -⟩
  · obtain rfl := hstarts.eq ⟨event, rfl, hevent⟩
    exact ⟨Function.update_self .., Function.update_self ..⟩
  · exact absurd ⟨event, rfl, hevent⟩ (hnone tx)

/-- A drawing lets go of what it drew. -/
theorem Draws.step (hdraws : Draws tx s e) (h : s.step mmStats e = some s') :
    s'.navAtPreviousTxStart tx = ∅ ∧ s'.receiveStats tx = ∅ := by
  obtain ⟨rfl, rfl, hmem⟩ := hdraws
  cases h
  rcases paintEvent_cases mmStats s with ⟨-, heq⟩ | ⟨hnone, -⟩
  · rw [heq]
    exact ⟨Function.update_self .., Function.update_self ..⟩
  · exact absurd ⟨rfl, rfl, hmem⟩ (hnone _)

end Handlers

/-! ### The places of the state -/

section Places

variable (mmStats : List UInt8 → ReceiveStatistics) (tx rx : Int32)

/-- The positions at the last start. -/
theorem place_navAtLastTxStart : Place (step · mmStats)
    (fun s e => Starts tx s e ∨ Responds e) (·.navAtLastTxStart tx)
    (fun s e => match e with
      | .bellhopResp _ => ∅
      | _ => s.lastNav) where
  write := by
    rintro s e t hstep (hstart | ⟨resp, rfl⟩)
    · obtain ⟨event, rfl, -⟩ := id hstart
      exact (hstart.step hstep).1
    · cases hstep
      rfl
  keep hstep hkeep := (keeps_step _ hstep).last (mt .inl hkeep) (mt .inr hkeep)

/-- The positions at the start before. -/
theorem place_navAtPreviousTxStart : Place (step · mmStats)
    (fun s e => Starts tx s e ∨ Responds e ∨ Draws tx s e) (·.navAtPreviousTxStart tx)
    (fun s e => match e with
      | .newLog _ => s.navAtLastTxStart tx
      | _ => ∅) where
  write := by
    rintro s e t hstep (hstart | ⟨resp, rfl⟩ | hdraws)
    · obtain ⟨event, rfl, -⟩ := id hstart
      exact (hstart.step hstep).2
    · cases hstep
      rfl
    · obtain ⟨rfl, -⟩ := id hdraws
      exact (hdraws.step hstep).1
  keep hstep hkeep := (keeps_step _ hstep).previous (mt .inl hkeep)
    (fun h => hkeep (.inr (.inl h))) fun h => hkeep (.inr (.inr h))

/-- The statistics of a receiver. -/
theorem place_receiveStats : Place (step · mmStats)
    (fun s e => Reports tx rx e ∨ Responds e ∨ Draws tx s e)
    (fun s => (s.receiveStats tx).lookup rx)
    (fun _ e => match e with
      | .receiveStats stats => some stats
      | _ => none) where
  write := by
    rintro s e t hstep (⟨stats, rfl, rfl, rfl⟩ | ⟨resp, rfl⟩ | hdraws)
    · cases hstep
      rw [receiveStats_handleReceiveStats, Function.update_self, AList.lookup_insert]
    · cases hstep
      rfl
    · obtain ⟨rfl, -⟩ := id hdraws
      rw [(hdraws.step hstep).2]
      rfl
  keep hstep hkeep := (keeps_step _ hstep).stats rx (mt .inl hkeep)
    (fun h => hkeep (.inr (.inl h))) fun h => hkeep (.inr (.inr h))

/-- The image that is painted next. -/
theorem place_tlImagePath : Place (step · mmStats)
    (fun _ e => (∃ resp, e = .bellhopResp resp ∧ resp.success) ∨ e = .paint) (·.tlImagePath)
    (fun _ e => match e with
      | .bellhopResp resp => resp.outputFile.getD "" ++ ".png"
      | _ => "") where
  write := by
    rintro s e t hstep (⟨resp, rfl, hsuccess⟩ | rfl)
    · cases hstep
      exact if_pos hsuccess
    · cases hstep
      rcases paintEvent_cases mmStats s with ⟨-, heq⟩ | ⟨-, heq⟩ <;> rw [heq]
  keep := by
    intro s e t hstep hkeep
    by_cases hresponds : Responds e
    · obtain ⟨resp, rfl⟩ := hresponds
      cases hstep
      exact if_neg fun hsuccess => hkeep (.inl ⟨resp, rfl, hsuccess⟩)
    · exact (keeps_step 0 hstep).image hresponds (mt .inr hkeep)

/-- The last positions are those that came last. -/
theorem lookup_lastNav {es : List LiaisonEvent} {s : LiaisonNetsim} (h : after mmStats es = some s)
    (port : Int32) : s.lastNav.lookup port = lastNavOf port es := by
  induction es using List.reverseRecOn generalizing s with
  | nil =>
      cases h
      rfl
  | append_singleton es e ih =>
      obtain ⟨t, ht, hstep⟩ := (Run.exec_concat_eq_some _ _).1 h
      rw [lastNavOf, List.filterMap_append]
      cases hnav : navUpdate port e with
      | none => simp [hnav, (keeps_step 0 hstep).nav port hnav, ih ht, lastNavOf]
      | some nav =>
          -- the position is entered under its port
          cases e <;> simp only [navUpdate, reduceCtorEq] at hnav
          next update =>
            obtain ⟨rfl, rfl⟩ : update.nav.modemTcpPort.getD 0 = port ∧ update.nav = nav := by
              simpa using hnav
            cases hstep
            simp [navUpdate, handleUpdatedNav]

end Places

/-! ### What is painted -/

section Paints

variable (mmStats : List UInt8 → ReceiveStatistics)

/-- The last start of the transmitter comes after another one, at `pre` and in the state `t`;
between them there is no response, and after the last one neither a response nor a drawing. -/
def Shown (tx : Int32) (es pre : List LiaisonEvent) (t : LiaisonNetsim) : Prop :=
  ∃ mid f u e, LastWrite (step · mmStats) init
      (fun s e => Starts tx s e ∨ Responds e ∨ Draws tx s e) es mid f u ∧ Starts tx u f ∧
    LastWrite (step · mmStats) init (fun s e => Starts tx s e ∨ Responds e) mid pre e t ∧
      Starts tx t e

/-- The last statistics of a receiver, after which there was neither a response nor a drawing. -/
def Reported (tx rx : Int32) (es : List LiaisonEvent) (stats : ReceiveStats) : Prop :=
  ∃ pre t, LastWrite (step · mmStats) init
    (fun s e => Reports tx rx e ∨ Responds e ∨ Draws tx s e) es pre (.receiveStats stats) t

/-- What a painting after some events shows. -/
structure Paints (es : List LiaisonEvent) (s : LiaisonNetsim) : Prop where
  /-- Marks are drawn iff there are positions to show, which have that of the transmitter. -/
  drawn : (s.paintEvent mmStats).1.marks.isSome ↔ ∃ pre t,
    Shown mmStats s.transmitterTcpPort es pre t ∧ (lastNavOf s.transmitterTcpPort pre).isSome
  /-- They are the vehicles where they were when the packet started, each once. -/
  marks : ∀ marks ∈ (s.paintEvent mmStats).1.marks, ∀ pre t,
    Shown mmStats s.transmitterTcpPort es pre t →
      marks.port = s.transmitterTcpPort ∧ some marks.nav = lastNavOf marks.port pre ∧
        (marks.receivers.map (·.port)).Nodup ∧ ∀ mark, mark ∈ marks.receivers ↔
          mark.port ≠ marks.port ∧ ∃ nav stats, nav ∈ lastNavOf mark.port pre ∧
            (∀ x, x ∈ stats ↔ Reported mmStats marks.port mark.port es x) ∧
              mark = rxMark mmStats mark.port nav stats
  /-- The positions of a start are drawn once, and in the order of the starts. -/
  once : Draws s.transmitterTcpPort s .paint → ∀ rest pre t pre' t',
    Shown mmStats s.transmitterTcpPort es pre t →
      Shown mmStats s.transmitterTcpPort (es ++ .paint :: rest) pre' t' → pre.length < pre'.length
  /-- The image is that of the last response with success, if it was not painted yet. -/
  image : ∀ path, ((s.paintEvent mmStats).1.image.map (·.path) = some path ↔ ∃ pre resp t,
    LastWrite (step · mmStats) init (fun _ e => (∃ resp, e = .bellhopResp resp ∧ resp.success) ∨
      e = .paint) es pre (.bellhopResp resp) t ∧ path = resp.outputFile.getD "" ++ ".png")

variable {mmStats} {tx rx : Int32} {es : List LiaisonEvent} {s : LiaisonNetsim}

/-- The positions are those at the start that is shown. -/
theorem navAtPreviousTxStart_of_shown (h : after mmStats es = some s) {pre : List LiaisonEvent}
    {t : LiaisonNetsim} (hshown : Shown mmStats tx es pre t) :
    s.navAtPreviousTxStart tx = t.lastNav := by
  obtain ⟨mid, f, u, e, hmid, ⟨event, rfl, -⟩, hpre, ⟨event', rfl, -⟩⟩ := hshown
  calc s.navAtPreviousTxStart tx
      = u.navAtLastTxStart tx := (place_navAtPreviousTxStart mmStats tx).eq_written hmid h
    _ = t.lastNav := (place_navAtLastTxStart mmStats tx).eq_written hpre hmid.state

/-- The state at the start that is shown. -/
theorem Shown.exec {pre : List LiaisonEvent} {t : LiaisonNetsim}
    (hshown : Shown mmStats tx es pre t) : after mmStats pre = some t := by
  obtain ⟨_, _, _, _, -, -, hpre, -⟩ := hshown
  exact hpre.state

/-- If there are positions, a start is shown. -/
theorem exists_shown (h : after mmStats es = some s) (hnavs : s.navAtPreviousTxStart tx ≠ ∅) :
    ∃ pre t, Shown mmStats tx es pre t := by
  rcases (place_navAtPreviousTxStart mmStats tx).eq_or_exists h with
    hinit | ⟨mid, f, u, hmid, hwritten⟩
  · exact absurd hinit hnavs
  · rcases hmid.write with hstart | ⟨resp, rfl⟩ | ⟨rfl, -⟩
    · obtain ⟨event, rfl, -⟩ := id hstart
      -- the start moved the positions on that the one before had kept
      rcases (place_navAtLastTxStart mmStats tx).eq_or_exists hmid.state with
        hinit | ⟨pre, e, t, hpre, hkept⟩
      · exact absurd (hwritten.trans hinit) hnavs
      · rcases hpre.write with hstart' | ⟨resp, rfl⟩
        · exact ⟨pre, t, mid, _, u, e, hmid, hstart, hpre, hstart'⟩
        · exact absurd (hwritten.trans hkept) hnavs
    · exact absurd hwritten hnavs
    · exact absurd hwritten hnavs

/-- The statistics are those that were reported last. -/
theorem lookup_receiveStats (h : after mmStats es = some s) (stats : ReceiveStats) :
    (s.receiveStats tx).lookup rx = some stats ↔ Reported mmStats tx rx es stats := by
  have hplace := place_receiveStats mmStats tx rx
  constructor
  · intro hlookup
    rcases hplace.eq_or_exists h with hinit | ⟨pre, e, t, hpre, hwritten⟩
    · cases hlookup.symm.trans hinit
    · have hvalue := hlookup.symm.trans hwritten
      cases e <;> cases hvalue
      exact ⟨pre, t, hpre⟩
  · rintro ⟨pre, t, hpre⟩
    exact hplace.eq_written hpre h

/-- The image is that of the last response. -/
theorem tlImagePath_eq_iff (h : after mmStats es = some s) (path : String) :
    (s.tlImagePath ≠ "" ∧ s.tlImagePath = path) ↔ ∃ pre resp t,
      LastWrite (step · mmStats) init (fun _ e => (∃ resp, e = .bellhopResp resp ∧ resp.success) ∨
        e = .paint) es pre (.bellhopResp resp) t ∧ path = resp.outputFile.getD "" ++ ".png" := by
  have hplace := place_tlImagePath mmStats
  constructor
  · rintro ⟨hne, rfl⟩
    rcases hplace.eq_or_exists h with hinit | ⟨pre, e, t, hpre, hwritten⟩
    · exact absurd hinit hne
    · rcases hpre.write with ⟨resp, rfl, -⟩ | rfl
      · exact ⟨pre, resp, t, hpre, hwritten⟩
      · exact absurd hwritten hne
  · rintro ⟨pre, resp, t, hpre, rfl⟩
    have hpath : s.tlImagePath = resp.outputFile.getD "" ++ ".png" := hplace.eq_written hpre h
    refine ⟨fun hempty => ?_, hpath⟩
    have hlength := congrArg String.length (hpath.symm.trans hempty)
    rw [String.length_append] at hlength
    exact absurd hlength (by simp)

/-- A start that is shown after a drawing is a later one. -/
theorem length_lt_of_shown (hdraws : Draws tx s .paint) (h : after mmStats es = some s)
    {rest pre pre' : List LiaisonEvent} {t t' : LiaisonNetsim} (hshown : Shown mmStats tx es pre t)
    (hshown' : Shown mmStats tx (es ++ .paint :: rest) pre' t') : pre.length < pre'.length := by
  obtain ⟨mid, f, u, e, hmid, hstart, hpre, -⟩ := hshown
  obtain ⟨mid', f', u', e', hmid', hstart', hpre', -⟩ := hshown'
  -- the last start comes after the drawing
  have hle : es.length ≤ mid'.length :=
    hmid'.length_le ⟨rest, by simp⟩ h (.inr (.inr hdraws))
  have hprefix : es <+: mid' := List.prefix_of_prefix_length_le (List.prefix_append _ _)
    ((List.prefix_append _ _).trans hmid'.before) hle
  -- so it comes after the start that was the last before, which comes after the one shown
  have hmid_le : mid.length ≤ pre'.length :=
    hpre'.length_le (hmid.before.trans hprefix) hmid.state (.inl hstart)
  have hpre_lt : pre.length + 1 ≤ mid.length := by simpa using hpre.before.length_le
  omega

/-- The marks that are painted. -/
theorem marks_paintEvent : (s.paintEvent mmStats).1.marks =
    ((s.navAtPreviousTxStart s.transmitterTcpPort).lookup s.transmitterTcpPort).map fun txNav =>
      drawMarks mmStats s.transmitterTcpPort txNav (s.navAtPreviousTxStart s.transmitterTcpPort)
        (s.receiveStats s.transmitterTcpPort) := by
  rw [paintEvent]
  cases hnav : (s.navAtPreviousTxStart s.transmitterTcpPort).lookup s.transmitterTcpPort <;>
    simp only [Option.map_some, Option.map_none]

/-- The image that is painted. -/
theorem image_paintEvent : (s.paintEvent mmStats).1.image.map (·.path) =
    if s.tlImagePath = "" then none else some s.tlImagePath := by
  rw [paintEvent]
  cases hnav : (s.navAtPreviousTxStart s.transmitterTcpPort).lookup s.transmitterTcpPort <;>
    (dsimp only; split_ifs <;> rfl)

/-- The receivers are the other vehicles with a position. -/
theorem mem_drawMarks {txNav : NavUpdate} {navs : Navs} {rxStats : RxStats} {mark : Mark} :
    mark ∈ (drawMarks mmStats tx txNav navs rxStats).receivers ↔ mark.port ≠ tx ∧
      ∃ nav ∈ navs.lookup mark.port,
        mark = rxMark mmStats mark.port nav (rxStats.lookup mark.port) := by
  simp only [drawMarks, List.mem_map, List.mem_filter, decide_eq_true_eq]
  constructor
  · rintro ⟨navPair, ⟨hmem, hne⟩, rfl⟩
    exact ⟨hne, navPair.2, AList.mem_lookup_iff.2 hmem, rfl⟩
  · rintro ⟨hne, nav, hnav, hmark⟩
    exact ⟨⟨mark.port, nav⟩, ⟨AList.mem_lookup_iff.1 hnav, hne⟩, hmark.symm⟩

/-- Each of them is drawn once. -/
theorem nodup_drawMarks {txNav : NavUpdate} {navs : Navs} {rxStats : RxStats} :
    ((drawMarks mmStats tx txNav navs rxStats).receivers.map (·.port)).Nodup := by
  have hports : (drawMarks mmStats tx txNav navs rxStats).receivers.map (·.port) =
      (navs.entries.filter (·.1 ≠ tx)).map Sigma.fst := by
    rw [drawMarks, List.map_map]
    rfl
  rw [hports]
  exact navs.nodupKeys.sublist List.filter_sublist

end Paints

/-- In every run, the marks of a painting are those of the start before the last one, with the
statistics reported since; no start is painted twice, and no image. -/
theorem paints_after (mmStats : List UInt8 → ReceiveStatistics) (es : List LiaisonEvent)
    (s : LiaisonNetsim) (h : after mmStats es = some s) : Paints mmStats es s where
  drawn := by
    rw [marks_paintEvent, Option.isSome_map]
    constructor
    · intro hsome
      have hnavs : s.navAtPreviousTxStart s.transmitterTcpPort ≠ ∅ := fun hnavs => by
        rw [hnavs] at hsome
        cases hsome
      obtain ⟨pre, t, hshown⟩ := exists_shown h hnavs
      have hlast := lookup_lastNav mmStats hshown.exec s.transmitterTcpPort
      rw [navAtPreviousTxStart_of_shown h hshown, hlast] at hsome
      exact ⟨pre, t, hshown, hsome⟩
    · rintro ⟨pre, t, hshown, hsome⟩
      rwa [navAtPreviousTxStart_of_shown h hshown, lookup_lastNav mmStats hshown.exec]
  marks := by
    intro marks hmarks pre t hshown
    rw [marks_paintEvent, navAtPreviousTxStart_of_shown h hshown] at hmarks
    obtain ⟨txNav, htxNav, rfl⟩ := Option.map_eq_some_iff.1 hmarks
    have hlast := lookup_lastNav mmStats hshown.exec
    refine ⟨rfl, htxNav.symm.trans (hlast _), nodup_drawMarks, fun mark => ?_⟩
    rw [mem_drawMarks]
    refine and_congr_right fun _ => ?_
    rw [hlast]
    constructor
    · rintro ⟨nav, hnav, hmark⟩
      exact ⟨nav, _, hnav, lookup_receiveStats h, hmark⟩
    · rintro ⟨nav, stats, hnav, hstats, hmark⟩
      refine ⟨nav, hnav, ?_⟩
      have heq : (s.receiveStats s.transmitterTcpPort).lookup mark.port = stats :=
        Option.ext fun x => (lookup_receiveStats h x).trans (hstats x).symm
      rw [heq]
      exact hmark
  once hdraws rest pre t pre' t' hshown hshown' := length_lt_of_shown hdraws h hshown hshown'
  image path := by
    rw [image_paintEvent, ← tlImagePath_eq_iff h]
    split_ifs with hempty
    · simp [hempty]
    · simp [hempty]

/-- The position of modem 62000 or 62001. -/
def navOf (port : Int32) (depth : Double) : LiaisonEvent :=
  .updatedNav ⟨2, port, some .zero, some .zero, some .zero, some depth, some .zero, some .zero⟩

/-- Modem 62000 transmits twice, and the liaison paints after each start. -/
def twoStarts : List LiaisonEvent :=
  let start (id : ℤ) : LiaisonEvent :=
    .newLog { event := .PACKET_START, packetId := id, txModemId := some 0 }
  [.managerCfg
      { simEnvPair := [⟨62000, "127.0.0.1", 1⟩, ⟨62001, "127.0.0.1", 2⟩], envBounds := [] },
    .clicked 0 init.inputs 131072, navOf 62000 .zero, navOf 62001 .zero, start 0, .paint,
    navOf 62001 (.ofFields false 1023 0),
    .receiveStats ⟨some 62001, some 62000, some true, none⟩, start 1]

/-- The receiver is painted where it was at the first start, with its reception in green. -/
theorem paints_twoStarts :
    let mmStats : List UInt8 → ReceiveStatistics := fun _ => ⟨0, 1, 0⟩
    ∃ s, after mmStats twoStarts = some s ∧ Paints mmStats twoStarts s ∧
      (s.paintEvent mmStats).1.marks.map (·.receivers.map fun mark =>
        (mark.port, mark.nav.depth, mark.brush)) = some [(62001, some .zero, ⟨0, 255, 0⟩)] := by
  intro mmStats
  have hrun : (after mmStats twoStarts).map (fun s => (s.paintEvent mmStats).1.marks.map
      (·.receivers.map fun mark => (mark.port, mark.nav.depth, mark.brush))) =
        some (some [(62001, some .zero, ⟨0, 255, 0⟩)]) := by
    decide +kernel
  obtain ⟨s, hs, hmarks⟩ := Option.map_eq_some_iff.1 hrun
  exact ⟨s, hs, paints_after mmStats twoStarts s hs, hmarks⟩

end LiaisonNetsim

end Netsim
