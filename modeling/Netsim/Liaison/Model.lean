import Netsim.Bellhop.Model
import Netsim.Logger.Paths
import Netsim.Manager.Model

/-!
# LiaisonNetsim

The liaison shows what the simulator does: the plots of the last packet, and over an image of the
transmission loss the receivers of a transmitter, each with the color of its last reception. The
handlers of messages and of the browser run one after the other, in any order.

At the start of a packet the positions of all vehicles are kept for its transmitter, and what was
kept at the start before moves on; the receivers are painted from there, by when their statistics of
that packet should have come.

Where something is on the image is calculated from the positions by the geodesy of a library, and is
left out, as are the widgets. Colors are calculated from exact values.
-/

namespace Netsim

/-! ### What is painted -/

/-- `goby::acomms::micromodem::protobuf::ReceiveStatistics`, as far as it is read. -/
structure ReceiveStatistics where
  /-- The mean squared error of the equalizer. -/
  mseEqualizer : ℚ
  /-- The number of frames. -/
  numberFrames : ℤ
  /-- The number of frames with errors. -/
  numberBadFrames : ℤ

/-- A `Wt::WColor`. -/
structure Color where
  /-- Red. -/
  red : ℤ
  /-- Green. -/
  green : ℤ
  /-- Blue. -/
  blue : ℤ
deriving DecidableEq

/-- `Wt::StandardColor`, as far as it is used. -/
inductive StandardColor
  | White
  | Yellow
  | Gray
deriving DecidableEq

/-- The shape of a mark. -/
inductive Shape
  | Ellipse
  | Rect
deriving DecidableEq

/-- A receiver on the image. -/
structure Mark where
  /-- The TCP port of its modem. -/
  port : Int32
  /-- Its position. -/
  nav : NavUpdate
  /-- The pen. -/
  pen : Option StandardColor
  /-- The brush. -/
  brush : Color
  /-- The shape. -/
  shape : Shape
deriving DecidableEq

/-- The image of the transmission loss. -/
structure TLImage where
  /-- `tl_image_path_`. -/
  path : String
  /-- The meters of range for a pixel. -/
  dr : ℤ
  /-- The meters of depth for a pixel. -/
  dz : ℤ
deriving DecidableEq

/-- The marks around a transmitter. -/
structure Marks where
  /-- The TCP port of its modem. -/
  port : Int32
  /-- Its position, which is the origin. -/
  nav : NavUpdate
  /-- The receivers, in any order. -/
  receivers : List Mark
deriving DecidableEq

/-- What is painted at once. -/
structure Painting where
  /-- The image, if there is a new one. -/
  image : Option TLImage
  /-- The marks, if there are positions. -/
  marks : Option Marks
deriving DecidableEq

/-- `rx_pens_`. -/
def rxPens : List StandardColor := [.White, .White, .Yellow, .Yellow, .Gray, .Gray]

/-- The pen of a receiver. The port is converted to a `std::size_t`. -/
def rxPen (port : Int32) : Option StandardColor :=
  rxPens[(port.toInt % 2 ^ 64).toNat % rxPens.length]?

/-- The shape of a receiver. -/
def rxShape (port : Int32) : Shape := if port.toInt % 2 = 0 then .Ellipse else .Rect

/-- The color scale of an equalizer error. -/
def mseScale (mse : ℚ) : ℚ :=
  let scale := 255 * (mse - -15) / (0 - -15)
  if 255 < scale then 255 else if scale < 0 then 0 else scale

/-- The brush of a receiver with these statistics; `mmStats` parses those of the modem. -/
def rxBrush (mmStats : List UInt8 → ReceiveStatistics) : Option ReceiveStats → Color
  | some stats =>
      match stats.mmStats with
      | some bytes =>
          let scale := mseScale (mmStats bytes).mseEqualizer
          if (mmStats bytes).numberBadFrames < (mmStats bytes).numberFrames then
            ⟨0, ⌊255 - scale⌋, ⌊scale⌋⟩
          else ⟨255, 0, 0⟩
      | none => if stats.packetSuccess.getD false then ⟨0, 255, 0⟩ else ⟨255, 0, 0⟩
  | none => ⟨0, 0, 0⟩

/-- The mark of a receiver. -/
def rxMark (mmStats : List UInt8 → ReceiveStatistics) (port : Int32) (nav : NavUpdate)
    (stats : Option ReceiveStats) : Mark where
  port := port
  nav := nav
  pen := rxPen port
  brush := rxBrush mmStats stats
  shape := rxShape port

/-- A color has its channels within a byte. -/
theorem rxBrush_mem (mmStats : List UInt8 → ReceiveStatistics) (stats : Option ReceiveStats) :
    ∀ channel ∈ [(rxBrush mmStats stats).red, (rxBrush mmStats stats).green,
      (rxBrush mmStats stats).blue], 0 ≤ channel ∧ channel ≤ 255 := by
  have hscale (mse : ℚ) : 0 ≤ mseScale mse ∧ mseScale mse ≤ 255 := by
    simp only [mseScale]
    split_ifs with hlarge hsmall
    · norm_num
    · norm_num
    · exact ⟨not_lt.1 hsmall, not_lt.1 hlarge⟩
  have hfloor {x : ℚ} (h : 0 ≤ x ∧ x ≤ 255) : 0 ≤ ⌊x⌋ ∧ ⌊x⌋ ≤ 255 :=
    ⟨Int.floor_nonneg.2 h.1, Int.floor_le_iff.2 (by push_cast; linarith [h.2])⟩
  unfold rxBrush
  split
  next stats =>
    split
    next bytes _ =>
      obtain ⟨hnonneg, hle⟩ := hscale (mmStats bytes).mseEqualizer
      have hgreen := hfloor (x := 255 - mseScale (mmStats bytes).mseEqualizer)
        ⟨by linarith, by linarith⟩
      have hblue := hfloor ⟨hnonneg, hle⟩
      split_ifs <;> simp [hgreen, hblue]
    next => split_ifs <;> simp
  next => simp

/-! ### The liaison -/

/-- The last position of each vehicle, under the TCP port of its modem. -/
abbrev Navs := AList fun _ : Int32 => NavUpdate

/-- The last statistics of each receiver, under the TCP port of its modem. -/
abbrev RxStats := AList fun _ : Int32 => ReceiveStats

/-- The widgets for a request, which keep their values in a range. -/
structure TLInputs where
  /-- `tl_r_`. -/
  r : ℤ := 10000
  /-- `tl_dr_`. -/
  dr : ℤ := 10
  /-- `tl_z_`. -/
  z : ℤ := -400
  /-- `tl_dz_`. -/
  dz : ℤ := 1
  /-- The range of `tl_r_`. -/
  r_mem : 0 ≤ r ∧ r ≤ 100000 := by decide
  /-- The range of `tl_dr_`. -/
  dr_mem : 1 ≤ dr ∧ dr ≤ 10000 := by decide
  /-- The range of `tl_z_`. -/
  z_mem : -10000 ≤ z ∧ z ≤ 0 := by decide
  /-- The range of `tl_dz_`. -/
  dz_mem : 1 ≤ dz ∧ dz ≤ 1000 := by decide

/-- The panels of the audio plots. -/
structure AudioPanel where
  /-- The title. -/
  title : String
  /-- The path of the image. -/
  path : List Char
deriving DecidableEq

/-- The state of the application. A map that holds maps has the empty one for a key that is not
there, as `operator[]` has. -/
structure LiaisonNetsim where
  /-- `manager_cfg_`. -/
  managerCfg : NetSimManagerConfig := { simEnvPair := [], envBounds := [] }
  /-- `last_nav_`. -/
  lastNav : Navs := ∅
  /-- `nav_at_last_tx_start_`. -/
  navAtLastTxStart : Int32 → Navs := fun _ => ∅
  /-- `nav_at_previous_tx_start_`. -/
  navAtPreviousTxStart : Int32 → Navs := fun _ => ∅
  /-- `receive_stats_`. -/
  receiveStats : Int32 → RxStats := fun _ => ∅
  /-- `transmitter_tcp_port_`. -/
  transmitterTcpPort : Int32 := 0
  /-- `r_`, `dr_`, `z_` and `dz_`. -/
  inputs : TLInputs := {}
  /-- `tl_image_path_`. -/
  tlImagePath : String := ""
  /-- The items of `tl_tx_`, which are ports in decimal. -/
  tlTx : List Int32 := []
  /-- `tl_request_` is enabled. -/
  tlRequestEnabled : Bool := true
  /-- `spect_panel_`. -/
  spectPanel : Option AudioPanel := none
  /-- `timeseries_panel_`. -/
  timeseriesPanel : Option AudioPanel := none

/-- What can happen. -/
inductive LiaisonEvent
  /-- `handle_new_log`. -/
  | newLog (event : LoggerEvent)
  /-- `handle_bellhop_resp`. -/
  | bellhopResp (resp : Bellhop.IBellhopResponse)
  /-- `handle_manager_cfg`. -/
  | managerCfg (cfg : NetSimManagerConfig)
  /-- `handle_updated_nav`. -/
  | updatedNav (update : EnvironmentNavUpdate)
  /-- `handle_receive_stats`. -/
  | receiveStats (stats : ReceiveStats)
  /-- `tl_request_` is clicked; `tx` is the item of `tl_tx_` that is selected, and `id` the number
  of the request. -/
  | clicked (tx : ℕ) (inputs : TLInputs) (id : ℤ)
  /-- `paintEvent`. -/
  | paint

namespace LiaisonNetsim

variable (s : LiaisonNetsim)

/-- The panel of the plot with this name. -/
def audioPanel (event : LoggerEvent) (title name : String) : AudioPanel where
  title := "Audio " ++ title ++ " (Transmitter modem " ++ toString (event.txModemId.getD 0) ++
    " packet #" ++ toString event.packetId ++ ")"
  path := pathBegin (event.logDir.getD "") (event.startTime.getD "") ++ setw 3 event.packetId ++
    "_".toList ++ name.toList ++ ".png".toList

/-- The command of `AudioImagesThread` that plots a packet. -/
def octaveCmd (event : LoggerEvent) : LiaisonPlotSignal :=
  ⟨event.logDir.getD "", event.startTime.getD "", event.packetId, event.txModemId.getD 0⟩

/-- The panels show the figures that the script printed, after their conversion. -/
theorem path_audioPanel {event : LoggerEvent} (h : 0 ≤ event.packetId) (title name : String) :
    (audioPanel event title name).path = (octaveCmd event).figure name ++ ".png".toList := by
  simp [audioPanel, octaveCmd, LiaisonPlotSignal.figure, setw_of_nonneg h, sprintf_of_nonneg h]

/-- The port of the modem whose packet starts. There is none beyond the configuration, and a
negative index is undefined. -/
def startPort (event : LoggerEvent) : Option (Option Int32) :=
  let txModemId := event.txModemId.getD 0
  if txModemId < s.managerCfg.simEnvPair.length then
    if txModemId < 0 then none
    else (s.managerCfg.simEnvPair[txModemId.toNat]?).map (some ·.modemTcpPort)
  else some none

/-- `handle_new_log`. -/
def handleNewLog (event : LoggerEvent) : Option LiaisonNetsim :=
  match event.event with
  | .ALL_LOGS_CLOSED_FOR_PACKET => some
      { s with
        spectPanel := some (audioPanel event "Spectrogram" "spectrogram")
        timeseriesPanel := some (audioPanel event "Timeseries" "timeseries") }
  | .PACKET_START => (s.startPort event).map fun
      | some tcpPort =>
          { s with
            navAtPreviousTxStart :=
              Function.update s.navAtPreviousTxStart tcpPort (s.navAtLastTxStart tcpPort)
            navAtLastTxStart := Function.update s.navAtLastTxStart tcpPort s.lastNav }
      | none => s

/-- `handle_bellhop_resp`. -/
def handleBellhopResp (resp : Bellhop.IBellhopResponse) : LiaisonNetsim :=
  { s with
    tlImagePath := if resp.success then resp.outputFile.getD "" ++ ".png" else s.tlImagePath
    tlRequestEnabled := true
    navAtLastTxStart := fun _ => ∅
    navAtPreviousTxStart := fun _ => ∅
    receiveStats := fun _ => ∅ }

/-- `handle_manager_cfg`. -/
def handleManagerCfg (cfg : NetSimManagerConfig) : LiaisonNetsim :=
  { s with
    managerCfg := cfg
    tlTx := if s.tlTx.length ≠ 0 then s.tlTx else cfg.simEnvPair.map (·.modemTcpPort) }

/-- `handle_updated_nav`. -/
def handleUpdatedNav (update : EnvironmentNavUpdate) : LiaisonNetsim :=
  { s with lastNav := s.lastNav.insert (update.nav.modemTcpPort.getD 0) update.nav }

/-- `handle_receive_stats`. -/
def handleReceiveStats (stats : ReceiveStats) : LiaisonNetsim :=
  let tx := stats.txModemTcpPort.getD 0
  { s with
    receiveStats := Function.update s.receiveStats tx
      ((s.receiveStats tx).insert (stats.modemTcpPort.getD 0) stats) }

/-- The request for the image around a transmitter. -/
def tlRequest (transmitter : Int32) (inputs : TLInputs) (id : ℤ) : Bellhop.IBellhopRequest where
  requestNumber := some id
  -- `beams` is a copy, so that those of the request have their defaults
  env :=
    { freq := 4000
      output := .INCOHERENT_PRESSURE
      receivers :=
        { numberInDepth := UInt32.ofNat (inputs.z.tdiv inputs.dz).natAbs
          numberInRange := UInt32.ofNat (inputs.r.tdiv inputs.dr).toNat
          firstDepth := 0
          firstRange := 0
          lastDepth := |inputs.z|
          lastRange := inputs.r }
      sources := { numberInDepth := 1 }
      adaptiveInfo :=
        { contact := toString transmitter
          ownship := toString transmitter
          autoReceiverRanges := false
          autoSourceDepth := true } }

/-- The number of receivers is as the widgets have it, and no product of it wraps. -/
theorem receivers_tlRequest (transmitter : Int32) (inputs : TLInputs) (id : ℤ) :
    let rx := (tlRequest transmitter inputs id).env.receivers
    (rx.numberInDepth.toNat : ℤ) = -inputs.z / inputs.dz ∧
      (rx.numberInRange.toNat : ℤ) = inputs.r / inputs.dr ∧
        (rx.numberInDepth * rx.numberInRange).toNat =
          rx.numberInDepth.toNat * rx.numberInRange.toNat := by
  intro rx
  obtain ⟨hr, hrmax⟩ := inputs.r_mem
  obtain ⟨hdr, -⟩ := inputs.dr_mem
  obtain ⟨hz, hzmax⟩ := inputs.z_mem
  obtain ⟨hdz, -⟩ := inputs.dz_mem
  have hdepth : (inputs.z.tdiv inputs.dz).natAbs ≤ 10000 := by
    rw [Int.natAbs_tdiv]
    exact (Nat.div_le_self _ _).trans (by omega)
  have hrange : (inputs.r.tdiv inputs.dr).toNat ≤ 100000 := by
    rw [Int.tdiv_eq_ediv_of_nonneg hr]
    have := Int.ediv_le_self inputs.dr hr
    omega
  have hinDepth : rx.numberInDepth.toNat = (inputs.z.tdiv inputs.dz).natAbs :=
    UInt32.toNat_ofNat_of_lt' (by simp only [UInt32.size]; omega)
  have hinRange : rx.numberInRange.toNat = (inputs.r.tdiv inputs.dr).toNat :=
    UInt32.toNat_ofNat_of_lt' (by simp only [UInt32.size]; omega)
  refine ⟨?_, ?_, ?_⟩
  · rw [hinDepth, ← Int.natAbs_neg, ← Int.neg_tdiv, Int.tdiv_eq_ediv_of_nonneg (by omega)]
    exact Int.natAbs_of_nonneg (Int.ediv_nonneg (by omega) (by omega))
  · rw [hinRange, Int.tdiv_eq_ediv_of_nonneg hr]
    exact Int.toNat_of_nonneg (Int.ediv_nonneg hr (by omega))
  · rw [UInt32.toNat_mul, Nat.mod_eq_of_lt]
    rw [hinDepth, hinRange]
    exact (Nat.mul_le_mul hdepth hrange).trans_lt (by norm_num)

/-- `tl_request_` is clicked. Without items `std::stoi` throws. -/
def clicked (tx : ℕ) (inputs : TLInputs) : Option LiaisonNetsim :=
  if s.tlRequestEnabled then
    (s.tlTx[tx]?).map fun transmitter =>
      { s with
        transmitterTcpPort := transmitter
        inputs := inputs
        tlRequestEnabled := false }
  else some s

/-- The request that is published when `tl_request_` is clicked. -/
def requested : LiaisonEvent → Option Bellhop.IBellhopRequest
  | .clicked tx inputs id =>
      if s.tlRequestEnabled then
        (s.tlTx[tx]?).map fun transmitter => tlRequest transmitter inputs id
      else none
  | _ => none

/-- The marks around a transmitter. -/
def drawMarks (mmStats : List UInt8 → ReceiveStatistics) (transmitter : Int32) (txNav : NavUpdate)
    (navs : Navs) (rxStats : RxStats) : Marks where
  port := transmitter
  nav := txNav
  receivers := (navs.entries.filter (·.1 ≠ transmitter)).map fun navPair =>
    rxMark mmStats navPair.1 navPair.2 (rxStats.lookup navPair.1)

/-- `TLPaintedWidget::paintEvent`. -/
def paintEvent (mmStats : List UInt8 → ReceiveStatistics) : Painting × LiaisonNetsim :=
  let image := if s.tlImagePath = "" then none
    else some ⟨s.tlImagePath, s.inputs.dr, s.inputs.dz⟩
  let s := { s with tlImagePath := "" }
  let transmitter := s.transmitterTcpPort
  let navs := s.navAtPreviousTxStart transmitter
  match navs.lookup transmitter with
  | some txNav =>
      (⟨image, some (drawMarks mmStats transmitter txNav navs (s.receiveStats transmitter))⟩,
        { s with
          navAtPreviousTxStart := Function.update s.navAtPreviousTxStart transmitter ∅
          receiveStats := Function.update s.receiveStats transmitter ∅ })
  | none => (⟨image, none⟩, s)

/-- The reaction to an event. It is undefined (`none`) where the source is, or throws. -/
def step (mmStats : List UInt8 → ReceiveStatistics) : LiaisonEvent → Option LiaisonNetsim
  | .newLog event => s.handleNewLog event
  | .bellhopResp resp => some (s.handleBellhopResp resp)
  | .managerCfg cfg => some (s.handleManagerCfg cfg)
  | .updatedNav update => some (s.handleUpdatedNav update)
  | .receiveStats stats => some (s.handleReceiveStats stats)
  | .clicked tx inputs _ => s.clicked tx inputs
  | .paint => some (s.paintEvent mmStats).2

/-- Nothing has been received. -/
abbrev init : LiaisonNetsim := {}

/-- The constructed application after some events. -/
def after (mmStats : List UInt8 → ReceiveStatistics) (es : List LiaisonEvent) :
    Option LiaisonNetsim :=
  Run.exec (step · mmStats) init es

end LiaisonNetsim

end Netsim
