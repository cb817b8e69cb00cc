import Netsim.Lib.LittleEndian
import Netsim.Logger.Files
import Netsim.Logger.Paths

/-!
# Plotting a packet

`liaison_plot_signal.m` reads the log files of a packet back: from each a time and the samples. If
the files hold their packets, it reads exactly what was logged of them, and of a file that is still
being written a beginning (`plots_after`).
-/

namespace Netsim

open LoggerThread

/-- The bytes that are written; `double` is the double that holds a time. -/
def LogItem.bytes (double : ℚ → Ieee.Value Ieee.binary64) : LogItem → List UInt8
  | .time t => LittleEndian.bytes 8 (double t).toBits
  | .sample x => LittleEndian.bytes 4 x.toBits

namespace LiaisonPlotSignal

/-- `fread(fid, 1, 'double')`. -/
def packetTime (file : List UInt8) : Option (Ieee.Value Ieee.binary64) :=
  (LittleEndian.records 8 (file.take 8)).head?.map fun record => .ofBits (LittleEndian.value record)

/-- `fread(fid, Inf, 'float')`, behind the time. -/
def data (file : List UInt8) : List SampleT :=
  (LittleEndian.records 4 (file.drop 8)).map fun record => .ofBits (LittleEndian.value record)

/-! ### What is read -/

section Read

variable (double : ℚ → Ieee.Value Ieee.binary64) (t : ℚ) (xs : List SampleT)

theorem value_bytes_sample (x : SampleT) :
    Ieee.Value.ofBits (LittleEndian.value (LogItem.bytes double (.sample x))) = x := by
  rw [LogItem.bytes, LittleEndian.value_bytes (x.toBits_lt.trans_le (by decide)),
    Ieee.Value.ofBits_toBits]

/-- The samples are read back. -/
theorem map_records_samples :
    (LittleEndian.records 4 ((xs.map LogItem.sample).flatMap (LogItem.bytes double))).map
      (fun record => Ieee.Value.ofBits (LittleEndian.value record)) = xs := by
  rw [List.flatMap_map, LittleEndian.records_flatMap (fun x => LogItem.bytes double (.sample x))
    (by decide) (fun _ => LittleEndian.length_bytes 4 _), List.map_map]
  exact (List.map_congr_left fun x _ => value_bytes_sample double x).trans (List.map_id xs)

theorem drop_items :
    ((LogItem.time t :: xs.map .sample).flatMap (LogItem.bytes double)).drop 8 =
      (xs.map LogItem.sample).flatMap (LogItem.bytes double) := by
  rw [List.flatMap_cons]
  exact List.drop_left' (LittleEndian.length_bytes 8 _)

/-- All samples of a file are read. -/
theorem data_items :
    data ((LogItem.time t :: xs.map .sample).flatMap (LogItem.bytes double)) = xs := by
  rw [data, drop_items double t xs, map_records_samples]

variable {double t xs}

/-- Of the beginning of a file the first samples are read, and the time if it is there. -/
theorem data_prefix {file : List UInt8}
    (h : file <+: (LogItem.time t :: xs.map .sample).flatMap (LogItem.bytes double)) :
    data file <+: xs ∧ (8 ≤ file.length → packetTime file = some (double t)) := by
  obtain ⟨rest, hrest⟩ := h
  constructor
  · have hdrop := drop_items double t xs
    rw [← hrest, List.drop_append] at hdrop
    have hrecords := LittleEndian.records_prefix 4 (file.drop 8) (rest.drop (8 - file.length))
    rw [hdrop] at hrecords
    rw [data]
    conv_rhs => rw [← map_records_samples double xs]
    exact hrecords.map _
  · intro hlength
    have htake : file.take 8 = LittleEndian.bytes 8 (double t).toBits := by
      have hbegin : (file ++ rest).take 8 = file.take 8 := List.take_append_of_le_length hlength
      rw [← hbegin, hrest, List.flatMap_cons]
      exact List.take_left' (LittleEndian.length_bytes 8 _)
    have hrecord := LittleEndian.records_flatMap
      (fun t => LittleEndian.bytes 8 (double t).toBits) (by decide)
      (fun _ => LittleEndian.length_bytes 8 _) [t]
    rw [List.flatMap_singleton] at hrecord
    rw [packetTime, htake, hrecord, List.map_singleton, List.head?_cons, Option.map_some,
      LittleEndian.value_bytes ((double t).toBits_lt.trans_le (by decide)),
      Ieee.Value.ofBits_toBits]

end Read

end LiaisonPlotSignal

/-! ### The files of a run -/

namespace LoggerThread

section Disk

variable {cfg : LoggerConfig} {l l' : LoggerThread} {es : List (LogStream × TaggedAudioBuffer)}
  {file : LogFile}

/-- Every packet begins with its START buffer. -/
theorem heads_packetsOf (bs : List TaggedAudioBuffer) :
    (packetsOf bs).map (·.1) = bs.filter (·.marker = .START) := by
  induction bs using List.reverseRecOn with
  | nil => rfl
  | append_singleton bs b ih =>
      by_cases hb : b.marker = .START
      · rw [packetsOf_concat_start bs hb, List.map_append, ih]
        simp [hb]
      -- another buffer joins the last packet, if there is one
      · rw [List.filter_append, ← ih]
        rcases List.eq_nil_or_concat (packetsOf bs) with hnil | ⟨packets, p, hpackets⟩
        · have hstep : packetsOf (bs ++ [b]) = [] := by
            unfold packetsOf at hnil ⊢
            rw [List.foldl_concat, hnil]
            simp [hb]
          simp [hnil, hstep, hb]
        · rw [List.concat_eq_append] at hpackets
          rw [packetsOf_concat_of_ne_start hb hpackets, hpackets]
          simp [hb]

theorem isSome_disk_write {items : List LogItem} {file' : LogFile}
    (h : ((l.write file' items).disk file).isSome) : (l.disk file).isSome := by
  rw [disk_write] at h
  split_ifs at h with hfile
  · rwa [Option.isSome_map, ← hfile] at h
  · exact h

theorem isSome_disk_logStart {b : TaggedAudioBuffer} {fromI toI modemIndex : ℤ} {dir : Direction}
    (h : l.logStart b fromI toI dir modemIndex = some l') (hfile : (l'.disk file).isSome) :
    (l.disk file).isSome ∨ b.marker = .START ∧
      file = ⟨dir, b.packetId, fromI, if dir = .OUT then some toI else none⟩ := by
  unfold logStart at h
  by_cases hb : b.marker = .START
  · rw [if_pos hb] at h
    obtain ⟨audio, -, h⟩ := Option.bind_eq_some_iff.1 h
    generalize (⟨dir, b.packetId, fromI, if dir = .OUT then some toI else none⟩ : LogFile) = opened
      at h ⊢
    have hdisk : l'.disk = (l.openFile audio opened modemIndex).disk := by
      dsimp only at h
      split_ifs at h <;> (obtain rfl := Option.some_inj.1 h; rfl)
    rw [hdisk, disk_openFile] at hfile
    split_ifs at hfile with heq
    · exact .inr ⟨hb, heq⟩
    · exact .inl hfile
  · rw [if_neg hb, Option.some_inj] at h
    exact .inl (h ▸ hfile)

theorem isSome_disk_logSamples {b : TaggedAudioBuffer} {modemIndex : ℤ} {dir : Direction}
    (h : l.logSamples b dir modemIndex = some l') (hfile : (l'.disk file).isSome) :
    (l.disk file).isSome := by
  have hptr : (l.filePtr dir b.packetId modemIndex).1.disk = l.disk := by
    unfold filePtr
    split <;> rfl
  unfold logSamples at h
  split at h
  next l₁ file' heq =>
    rw [heq] at hptr
    obtain ⟨audio, -, h⟩ := Option.bind_eq_some_iff.1 h
    obtain rfl := Option.some_inj.1 h
    rw [← hptr]
    exact isSome_disk_write hfile
  next l₁ heq =>
    rw [heq] at hptr
    obtain rfl := Option.some_inj.1 h
    rwa [← hptr]

/-- Only a START buffer creates a file. -/
theorem isSome_disk_receive {σ : LogStream} {b : TaggedAudioBuffer}
    (h : receive cfg l (σ, b) = some l') (hfile : (l'.disk file).isSome) :
    (l.disk file).isSome ∨ b.marker = .START ∧ file = σ.file b.packetId := by
  have hlog {fromI toI : ℤ} {dir : Direction} (h : l.logAudio cfg b fromI toI dir = some l') :
      (l.disk file).isSome ∨ b.marker = .START ∧
        file = ⟨dir, b.packetId, fromI, if dir = .OUT then some toI else none⟩ := by
    obtain ⟨l₁, h₁, h⟩ := Option.bind_eq_some_iff.1 h
    obtain ⟨l₂, h₂, h⟩ := Option.bind_eq_some_iff.1 h
    have hdisk : l'.disk = l₂.disk := by
      split_ifs at h <;> (obtain rfl := Option.some_inj.1 h; simp)
    rw [hdisk] at hfile
    exact isSome_disk_logStart h₁ (isSome_disk_logSamples h₂ hfile)
  cases σ with
  | detector i => exact hlog h
  | processor fromI toI => exact hlog h

/-- In every run there are only the files of packets. -/
theorem exists_packet_of_isSome_disk (h : after cfg es = some l) (hfile : (l.disk file).isSome) :
    ∃ σ, ∃ p ∈ packetsOf (streamBuffers σ es), file = σ.file p.1.packetId := by
  have hstart : ∃ e ∈ es, e.2.marker = .START ∧ file = e.1.file e.2.packetId := by
    induction es using List.reverseRecOn generalizing l with
    | nil =>
        cases h
        cases hfile
    | append_singleton es e ih =>
        obtain ⟨l', hl', he⟩ := (Run.exec_concat_eq_some _ _).1 h
        rcases isSome_disk_receive he hfile with hold | hnew
        · obtain ⟨e', he', hstart⟩ := ih hl' hold
          exact ⟨e', List.mem_append_left _ he', hstart⟩
        · exact ⟨e, by simp, hnew⟩
  obtain ⟨⟨σ, b⟩, he, hb, rfl⟩ := hstart
  have hmem : b ∈ (packetsOf (streamBuffers σ es)).map (·.1) := by
    rw [heads_packetsOf, List.mem_filter]
    exact ⟨List.mem_map.2 ⟨(σ, b), by simpa using he, rfl⟩, by simpa using hb⟩
  obtain ⟨p, hp, rfl⟩ := List.mem_map.1 hmem
  exact ⟨σ, p, hp, rfl⟩

end Disk

/-- The bytes of a file. -/
def diskBytes (double : ℚ → Ieee.Value Ieee.binary64) (l : LoggerThread) (file : LogFile) :
    Option (List UInt8) :=
  (l.disk file).map (·.flatMap (LogItem.bytes double))

/-- The samples of a packet. -/
def packetSamples (p : TaggedAudioBuffer × List TaggedAudioBuffer) : List SampleT :=
  (p.1 :: p.2).flatMap (·.samples)

/-- What the script finds for a packet of a transmitter, and what it reads. -/
structure Plots (lib : GlobLibrary) (cfg : LoggerConfig)
    (double : ℚ → Ieee.Value Ieee.binary64) (es : List (LogStream × TaggedAudioBuffer))
    (l : LoggerThread) (i id : ℤ) : Prop where
  /-- `in_files` is the file of the transmitter. -/
  inFiles : ∀ file, (l.disk file).isSome →
    (lib.Finds (LiaisonPlotSignal.inPattern ⟨cfg.logDirectory, cfg.startTime, id, i⟩)
        (file.path cfg) ↔ file = (LogStream.detector i).file id)
  /-- `out_files` are those of the receivers, and of transmitters with a longer decimal. -/
  outFiles : ∀ file, (l.disk file).isSome →
    (lib.Finds (LiaisonPlotSignal.outGlob ⟨cfg.logDirectory, cfg.startTime, id, i⟩).pattern
        (file.path cfg) ↔
      ∃ fromI toI, file = (LogStream.processor fromI toI).file id ∧ decimal i <+: decimal fromI)
  /-- With no more than ten modems there are none of those. -/
  ownFiles : (∀ e ∈ es, e.1.fromModemIndex < 10) → ∀ file, (l.disk file).isSome →
    (lib.Finds (LiaisonPlotSignal.outGlob ⟨cfg.logDirectory, cfg.startTime, id, i⟩).pattern
        (file.path cfg) ↔ ∃ toI, file = (LogStream.processor i toI).file id)
  /-- A path is that of one file. -/
  path : ∀ file file', (l.disk file).isSome → (l.disk file').isSome →
    file.path cfg = file'.path cfg → file = file'
  /-- The time and the samples are read back, and of a part of a file the first samples. -/
  data : ∀ σ, ∀ p ∈ packetsOf (streamBuffers σ es), ∃ audio bytes, p.1.buffer = some audio ∧
    l.diskBytes double (σ.file p.1.packetId) = some bytes ∧
      LiaisonPlotSignal.packetTime bytes = some (double audio.bufferStartTime) ∧
        LiaisonPlotSignal.data bytes = packetSamples p ∧
          ∀ part, part <+: bytes → LiaisonPlotSignal.data part <+: packetSamples p

section Plots

variable {es : List (LogStream × TaggedAudioBuffer)} {σ : LogStream}
  {p : TaggedAudioBuffer × List TaggedAudioBuffer}

/-- The packets are of the buffers. -/
theorem exists_of_mem_packetsOf (hp : p ∈ packetsOf (streamBuffers σ es)) : (σ, p.1) ∈ es := by
  have hmem : p.1 ∈ (packetsOf (streamBuffers σ es)).map (·.1) := List.mem_map_of_mem hp
  rw [heads_packetsOf, List.mem_filter] at hmem
  obtain ⟨e, he, heq⟩ := List.mem_map.1 hmem.1
  obtain ⟨hes, hσ⟩ := List.mem_filter.1 he
  rw [← heq, ← of_decide_eq_true hσ]
  exact hes

theorem packetItems_eq {audio : AudioBuffer} (h : p.1.buffer = some audio) :
    packetItems p = .time audio.bufferStartTime :: (packetSamples p).map .sample := by
  have hsamples (b : TaggedAudioBuffer) : (b.buffer.toList.flatMap fun audio =>
      audio.samples.map LogItem.sample) = b.samples.map .sample := by
    rw [TaggedAudioBuffer.samples]
    cases b.buffer <;> simp
  simp only [packetItems, packetSamples, hsamples, h, Option.toList_some, List.map_singleton,
    List.map_flatMap]
  rfl

/-- A decimal of one digit has no other beginning. -/
theorem eq_of_decimal_prefix {i n : ℤ} (hi : 0 ≤ i) (hn : 0 ≤ n) (hlt : n < 10)
    (h : decimal i <+: decimal n) : i = n := by
  refine decimal_inj hi hn (h.eq_of_length_le ?_)
  have hone : (decimal n).length ≤ 1 := by
    rw [decimal_of_nonneg hn]
    exact (Nat.length_toDigits_le_iff (by decide) (by decide)).2 (by omega)
  have hpos : 0 < (decimal i).length := by
    rw [decimal_of_nonneg hi]
    exact List.length_pos_of_ne_nil Nat.toDigits_ne_nil
  omega

end Plots

variable (lib : GlobLibrary) (cfg : LoggerConfig) (double : ℚ → Ieee.Value Ieee.binary64)
  (es : List (LogStream × TaggedAudioBuffer)) (l : LoggerThread)

/-- In every run in which the files hold their packets, with numbers that are not negative and a
directory without wildcards, the script finds the files of a packet and reads back what was
logged. -/
theorem plots_after (hcfg : cfg.Plain) (hproper : ProperStreams es)
    (hfree : Run.ExecAlways (receive cfg) {} KeyFree es)
    (hnonneg : ∀ e ∈ es, e.1.Nonneg ∧ 0 ≤ e.2.packetId) (h : after cfg es = some l) (i : ℤ)
    (p : TaggedAudioBuffer × List TaggedAudioBuffer)
    (hp : p ∈ packetsOf (streamBuffers (.detector i) es)) :
    Plots lib cfg double es l i p.1.packetId := by
  have hpacket {file : LogFile} (hfile : (l.disk file).isSome) : ∃ σ, ∃ q ∈ packetsOf
      (streamBuffers σ es), file = σ.file q.1.packetId ∧ σ.Nonneg ∧ 0 ≤ q.1.packetId ∧
        (σ, q.1) ∈ es := by
    obtain ⟨σ, q, hq, rfl⟩ := exists_packet_of_isSome_disk h hfile
    have hes := exists_of_mem_packetsOf hq
    exact ⟨σ, q, hq, rfl, (hnonneg _ hes).1, (hnonneg _ hes).2, hes⟩
  obtain ⟨hdetector, hid⟩ := hnonneg _ (exists_of_mem_packetsOf hp)
  have hi : 0 ≤ i := hdetector.1
  have hout (file : LogFile) (hfile : (l.disk file).isSome) :
      lib.Finds (LiaisonPlotSignal.outGlob
          ⟨cfg.logDirectory, cfg.startTime, p.1.packetId, i⟩).pattern (file.path cfg) ↔
        ∃ fromI toI, file = (LogStream.processor fromI toI).file p.1.packetId ∧
          decimal i <+: decimal fromI := by
    obtain ⟨σ, q, -, rfl, hσ, hq, -⟩ := hpacket hfile
    refine (finds_outGlob_iff lib hcfg hσ hq hid hi).trans ?_
    cases σ with
    | detector j => simp [LogStream.dir, LogStream.file]
    | processor fromI toI =>
        simp only [LogStream.dir, true_and, LogStream.file_inj]
        constructor
        · rintro ⟨hsame, hprefix⟩
          exact ⟨fromI, toI, ⟨rfl, hsame⟩, hprefix⟩
        · rintro ⟨_, _, ⟨heq, hid⟩, hprefix⟩
          cases heq
          exact ⟨hid, hprefix⟩
  refine ⟨fun file hfile => ?_, hout, fun hten file hfile => ?_, fun file file' hfile hfile' => ?_,
    fun σ q hq => ?_⟩
  · obtain ⟨σ, q, -, rfl, hσ, hq, -⟩ := hpacket hfile
    exact finds_inPattern_iff lib hcfg hσ hq hid hi
  · rw [hout file hfile]
    constructor
    · rintro ⟨fromI, toI, rfl, hprefix⟩
      obtain ⟨σ, q, -, heq, hσ, -, hes⟩ := hpacket hfile
      obtain ⟨rfl, -⟩ := LogStream.file_inj.1 heq
      obtain rfl := eq_of_decimal_prefix hi hσ.1 (hten _ hes) hprefix
      exact ⟨toI, rfl⟩
    · rintro ⟨toI, rfl⟩
      exact ⟨i, toI, rfl, List.prefix_rfl⟩
  · obtain ⟨σ, q, -, rfl, hσ, hq, -⟩ := hpacket hfile
    obtain ⟨τ, r, -, rfl, hτ, hr, -⟩ := hpacket hfile'
    exact (path_inj hσ hτ hq hr).1
  · obtain ⟨audio, haudio⟩ := Option.isSome_iff_exists.1
      (hproper.audio _ (exists_of_mem_packetsOf hq))
    have hdisk := filesHoldPackets_of_after hproper hfree h σ q hq
    rw [packetItems_eq haudio] at hdisk
    have hbytes : 8 ≤ ((LogItem.time audio.bufferStartTime ::
        (packetSamples q).map .sample).flatMap (LogItem.bytes double)).length := by
      rw [List.flatMap_cons, List.length_append, LogItem.bytes, LittleEndian.length_bytes]
      omega
    exact ⟨audio, _, haudio, by rw [diskBytes, hdisk]; rfl,
      (LiaisonPlotSignal.data_prefix List.prefix_rfl).2 hbytes, LiaisonPlotSignal.data_items ..,
      fun part hpart => (LiaisonPlotSignal.data_prefix hpart).1⟩

/-- Streams are proper if those are that carry buffers. -/
theorem properStreams_of_forall {es : List (LogStream × TaggedAudioBuffer)}
    (h : ∀ e ∈ es, WellFramed (streamBuffers e.1 es) ∧
      ((packetsOf (streamBuffers e.1 es)).map (·.1.packetId)).Nodup ∧ e.2.buffer.isSome) :
    ProperStreams es := by
  -- another stream carries nothing
  have hnil (σ : LogStream) (hσ : ∀ e ∈ es, e.1 ≠ σ) : streamBuffers σ es = [] := by
    simpa [streamBuffers] using hσ
  refine ⟨fun σ => ?_, fun σ => ?_, fun e he => (h e he).2.2⟩
  · by_cases hσ : ∃ e ∈ es, e.1 = σ
    · obtain ⟨e, he, rfl⟩ := hσ
      exact (h e he).1
    · rw [hnil σ fun e he heq => hσ ⟨e, he, heq⟩]
      decide
  · by_cases hσ : ∃ e ∈ es, e.1 = σ
    · obtain ⟨e, he, rfl⟩ := hσ
      exact (h e he).2.1
    · rw [hnil σ fun e he heq => hσ ⟨e, he, heq⟩]
      decide

/-- Modem 1 transmits to modem 2, and then modem 10 does. -/
def twoTransmissions : List (LogStream × TaggedAudioBuffer) :=
  [(.detector 1, oneSample false .START), (.detector 1, oneSample false .END),
    (.processor 1 2, oneSample false .START), (.processor 1 2, oneSample false .END),
    (.processor 10 2, oneSample true .START), (.processor 10 2, oneSample true .END)]

/-- The packet of modem 1 is plotted, but together with that of modem 10. -/
theorem plots_twoTransmissions :
    let cfg : LoggerConfig := { startTime := "20211201T120000" }
    ∃ l, after cfg twoTransmissions = some l ∧
      Plots .firstAsterisk cfg (fun _ => .ofFields false 0 0) twoTransmissions l 1 0 ∧
        (l.disk ((LogStream.processor 10 2).file 0)).isSome ∧
          GlobLibrary.firstAsterisk.Finds
            (LiaisonPlotSignal.outGlob ⟨cfg.logDirectory, cfg.startTime, 0, 1⟩).pattern
            (((LogStream.processor 10 2).file 0).path cfg) := by
  intro cfg
  have hfree : Run.checkAlways (receive cfg) KeyFree {} twoTransmissions = true := by
    decide +kernel
  have hrun : ((after cfg twoTransmissions).bind
      (·.disk ((LogStream.processor 10 2).file 0))).isSome := by
    decide +kernel
  obtain ⟨items, hitems⟩ := Option.isSome_iff_exists.1 hrun
  obtain ⟨l, hl, hfile⟩ := Option.bind_eq_some_iff.1 hitems
  have hplots := plots_after .firstAsterisk cfg (fun _ => .ofFields false 0 0) twoTransmissions l
    ⟨by decide +kernel, by decide +kernel⟩ (properStreams_of_forall (by decide +kernel))
    (Run.execAlways_of_check _ _ hfree) (by decide +kernel) hl 1
    (oneSample false .START, [oneSample false .END]) (by decide +kernel)
  refine ⟨l, hl, hplots, by rw [hfile]; rfl, ?_⟩
  exact (hplots.outFiles _ (by rw [hfile]; rfl)).2 ⟨10, 2, rfl, by decide +kernel⟩

end LoggerThread

end Netsim
