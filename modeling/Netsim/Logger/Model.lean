import Mathlib.Data.List.AList
import Netsim.Core.Common
import Netsim.Lib.Run

/-!
# LoggerThread

The logger writes one binary file for every packet of every stream: the audio a detector
publishes (IN) and the audio a processor sends from one modem to another (OUT). The files that
are open are found through `files_`, a map from direction to packet id to *one* modem index,
the transmitter for IN and the receiver for OUT.

A null audio buffer is dereferenced only where the source does so; the step is then undefined
(`none`).
-/

namespace Netsim

/-- `LoggerThread::Direction`. -/
inductive Direction
  | IN
  | OUT
deriving DecidableEq

/-- The part of `NetSimCoreConfig` the logger reads, and the time it was started. -/
structure LoggerConfig where
  /-- Directory to write logged audio data. -/
  logDirectory : String := "."
  /-- `start_time`, part of every file name. -/
  startTime : String

/-- A log file, by the fields of its name that vary within a run. -/
structure LogFile where
  /-- `in_` or `out_`. -/
  dir : Direction
  /-- The packet id. -/
  packetId : ℤ
  /-- The transmitter, after `_tx`. -/
  fromModemIndex : ℤ
  /-- The receiver, after `_rx`; only for OUT. -/
  toModemIndex : Option ℤ
deriving DecidableEq

/-- What is written to a log file: the bytes of a time or of a sample. -/
inductive LogItem
  | time (t : ℚ)
  | sample (x : SampleT)
deriving DecidableEq

/-- `LoggerEvent::Event`. -/
inductive LoggerEventKind
  | ALL_LOGS_CLOSED_FOR_PACKET
  | PACKET_START
deriving DecidableEq

/-- `netsim::protobuf::LoggerEvent`. -/
structure LoggerEvent where
  /-- What happened. -/
  event : LoggerEventKind
  /-- The log directory. -/
  logDir : Option String := none
  /-- The start time of the logger. -/
  startTime : Option String := none
  /-- The packet. -/
  packetId : ℤ
  /-- The transmitter. -/
  txModemId : Option ℤ := none
deriving DecidableEq

/-- A stream the logger subscribes to. -/
inductive LogStream
  /-- `DetectorAudio<i>`. -/
  | detector (i : ℤ)
  /-- `AudioOut<from_i, to_i>`. -/
  | processor (fromI toI : ℤ)
deriving DecidableEq

/-- The state of the logger: the open files, the files written, the events published. -/
structure LoggerThread where
  /-- `files_[dir][packet_id]`: modem index to a file pointer, null or open. -/
  files : Direction → ℤ → AList (fun _ : ℤ => Option LogFile) := fun _ _ => ∅
  /-- What has been written to each file that was ever opened. -/
  disk : LogFile → Option (List LogItem) := fun _ => none
  /-- The events published on `logger_event`, oldest first. -/
  loggerEvents : List LoggerEvent := []

namespace LogStream

/-- The direction the stream is logged under. -/
def dir : LogStream → Direction
  | detector _ => .IN
  | processor _ _ => .OUT

/-- The modem index the stream is logged under. -/
def modemIndex : LogStream → ℤ
  | detector i => i
  | processor _ toI => toI

/-- The transmitter. -/
def fromModemIndex : LogStream → ℤ
  | detector i => i
  | processor fromI _ => fromI

/-- The file the packet `id` of the stream is logged to. -/
def file : LogStream → ℤ → LogFile
  | detector i, id => { dir := .IN, packetId := id, fromModemIndex := i, toModemIndex := none }
  | processor fromI toI, id =>
      { dir := .OUT, packetId := id, fromModemIndex := fromI, toModemIndex := some toI }

/-- Different packets, and different streams, have different files. -/
theorem file_inj {σ τ : LogStream} {id id' : ℤ} : σ.file id = τ.file id' ↔ σ = τ ∧ id = id' := by
  cases σ <;> cases τ <;> simp [file] <;> tauto

end LogStream

namespace LoggerThread

/-- Replace the map `files_[dir][packet_id]`. -/
def setFiles (l : LoggerThread) (dir : Direction) (id : ℤ)
    (m : AList (fun _ : ℤ => Option LogFile)) : LoggerThread :=
  { l with files := fun dir' id' => if dir' = dir ∧ id' = id then m else l.files dir' id' }

/-- Write to an open file. -/
def write (l : LoggerThread) (file : LogFile) (items : List LogItem) : LoggerThread :=
  { l with disk := fun file' =>
      if file' = file then (l.disk file).map (· ++ items) else l.disk file' }

/-- Publish on `logger_event`. -/
def publish (l : LoggerThread) (e : LoggerEvent) : LoggerThread :=
  { l with loggerEvents := l.loggerEvents ++ [e] }

/-- The START branch of `log_audio`: create the file, replace the file pointer at the key by
it, and write the start time. -/
def openFile (l : LoggerThread) (audio : AudioBuffer) (file : LogFile) (modemIndex : ℤ) :
    LoggerThread :=
  let l := { l with disk := fun file' => if file' = file then some [] else l.disk file' }
  let l := l.setFiles file.dir file.packetId
    ((l.files file.dir file.packetId).insert modemIndex (some file))
  l.write file [.time audio.bufferStartTime]

/-- `operator[]` on `files_[dir][packet_id]`: a missing pointer is inserted as null. -/
def filePtr (l : LoggerThread) (dir : Direction) (id modemIndex : ℤ) :
    LoggerThread × Option LogFile :=
  match (l.files dir id).lookup modemIndex with
  | some ptr => (l, ptr)
  -- left behind even when nothing is written
  | none => (l.setFiles dir id ((l.files dir id).insert modemIndex none), none)

/-- The END branch of `log_audio`: close the file, and announce an OUT packet that has no more
entries. -/
def closeFile (cfg : LoggerConfig) (l : LoggerThread) (dir : Direction) (id modemIndex
    fromModemIndex : ℤ) : LoggerThread :=
  -- `erase(modem_index)` destroys the stream, which closes the file
  let l := l.setFiles dir id ((l.files dir id).erase modemIndex)
  if dir = .OUT ∧ (l.files .OUT id).keys = [] then
    -- only the receivers whose file is open by now are waited for
    l.publish { event := .ALL_LOGS_CLOSED_FOR_PACKET, logDir := some cfg.logDirectory,
                startTime := some cfg.startTime, packetId := id,
                txModemId := some fromModemIndex }
  else l

/-- `log_audio`, its START branch. -/
def logStart (l : LoggerThread) (buffer : TaggedAudioBuffer) (fromModemIndex toModemIndex : ℤ)
    (dir : Direction) (modemIndex : ℤ) : Option LoggerThread :=
  if buffer.marker = .START then do
    -- `buffer_start_time` is read through the audio pointer
    let audio ← buffer.buffer
    let l := l.openFile audio
      { dir := dir, packetId := buffer.packetId, fromModemIndex := fromModemIndex,
        toModemIndex := if dir = .OUT then some toModemIndex else none } modemIndex
    if dir = .IN then
      some (l.publish { event := .PACKET_START, packetId := buffer.packetId,
                        txModemId := some modemIndex })
    else some l
  else some l

/-- `log_audio`, writing the samples if there is an open file. -/
def logSamples (l : LoggerThread) (buffer : TaggedAudioBuffer) (dir : Direction)
    (modemIndex : ℤ) : Option LoggerThread :=
  match l.filePtr dir buffer.packetId modemIndex with
  | (l, some file) => do
      -- the audio is dereferenced only if there is a file
      let audio ← buffer.buffer
      some (l.write file (audio.samples.map .sample))
  | (l, none) => some l

/-- `log_audio`. -/
def logAudio (cfg : LoggerConfig) (l : LoggerThread) (buffer : TaggedAudioBuffer)
    (fromModemIndex toModemIndex : ℤ) (dir : Direction) : Option LoggerThread := do
  -- an OUT packet is not keyed by its transmitter
  let modemIndex := if dir = .IN then fromModemIndex else toModemIndex
  let l ← l.logStart buffer fromModemIndex toModemIndex dir modemIndex
  let l ← l.logSamples buffer dir modemIndex
  if buffer.marker = .END then
    some (l.closeFile cfg dir buffer.packetId modemIndex fromModemIndex)
  else some l

/-- The callback of a subscription. -/
def receive (cfg : LoggerConfig) (l : LoggerThread) (e : LogStream × TaggedAudioBuffer) :
    Option LoggerThread :=
  match e.1 with
  -- there is no receiver: `to_modem_index` is -1
  | .detector i => l.logAudio cfg e.2 i (-1) .IN
  | .processor fromI toI => l.logAudio cfg e.2 fromI toI .OUT

/-- The constructed logger after receiving `es`. -/
def after (cfg : LoggerConfig) (es : List (LogStream × TaggedAudioBuffer)) :
    Option LoggerThread :=
  Run.exec (receive cfg) {} es

/-! ### What one buffer does -/

section Receive

variable {cfg : LoggerConfig} {l : LoggerThread} {σ : LogStream} {b : TaggedAudioBuffer}

@[simp]
theorem files_setFiles (l : LoggerThread) (dir dir' : Direction) (id id' : ℤ)
    (m : AList (fun _ : ℤ => Option LogFile)) :
    (l.setFiles dir id m).files dir' id' = if dir' = dir ∧ id' = id then m else l.files dir' id' :=
  rfl

@[simp]
theorem disk_setFiles (l : LoggerThread) (dir : Direction) (id : ℤ)
    (m : AList (fun _ : ℤ => Option LogFile)) : (l.setFiles dir id m).disk = l.disk := rfl

@[simp]
theorem loggerEvents_setFiles (l : LoggerThread) (dir : Direction) (id : ℤ)
    (m : AList (fun _ : ℤ => Option LogFile)) :
    (l.setFiles dir id m).loggerEvents = l.loggerEvents := rfl

@[simp]
theorem files_write (l : LoggerThread) (file : LogFile) (items : List LogItem) :
    (l.write file items).files = l.files := rfl

@[simp]
theorem disk_write (l : LoggerThread) (file file' : LogFile) (items : List LogItem) :
    (l.write file items).disk file' =
      if file' = file then (l.disk file).map (· ++ items) else l.disk file' := rfl

@[simp]
theorem files_publish (l : LoggerThread) (e : LoggerEvent) : (l.publish e).files = l.files := rfl

@[simp]
theorem disk_publish (l : LoggerThread) (e : LoggerEvent) : (l.publish e).disk = l.disk := rfl

@[simp]
theorem loggerEvents_publish (l : LoggerThread) (e : LoggerEvent) :
    (l.publish e).loggerEvents = l.loggerEvents ++ [e] := rfl

@[simp]
theorem disk_closeFile (dir : Direction) (id modemIndex fromModemIndex : ℤ) :
    (l.closeFile cfg dir id modemIndex fromModemIndex).disk = l.disk := by
  unfold closeFile
  dsimp only
  split_ifs <;> rfl

@[simp]
theorem files_closeFile (dir dir' : Direction) (id id' modemIndex fromModemIndex : ℤ) :
    (l.closeFile cfg dir id modemIndex fromModemIndex).files dir' id' =
      if dir' = dir ∧ id' = id then (l.files dir id).erase modemIndex else l.files dir' id' := by
  unfold closeFile
  dsimp only
  split_ifs <;> simp_all

/-- The file that is open at a key. -/
def openAt (l : LoggerThread) (dir : Direction) (id modemIndex : ℤ) : Option LogFile :=
  ((l.files dir id).lookup modemIndex).join

/-- The pointer found at a key with an open file is that file, and nothing is inserted. -/
theorem filePtr_of_openAt {dir : Direction} {id modemIndex : ℤ} {file : LogFile}
    (h : l.openAt dir id modemIndex = some file) :
    l.filePtr dir id modemIndex = (l, some file) := by
  have hlookup : (l.files dir id).lookup modemIndex = some (some file) := by
    simpa [openAt, Option.join_eq_some_iff] using h
  simp [filePtr, hlookup]

/-- Opening a file opens it at its key and nowhere else. -/
theorem openAt_openFile (audio : AudioBuffer) (file : LogFile) (dir : Direction)
    (id modemIndex modemIndex' : ℤ) :
    (l.openFile audio file modemIndex).openAt dir id modemIndex' =
      if dir = file.dir ∧ id = file.packetId ∧ modemIndex' = modemIndex then some file
      else l.openAt dir id modemIndex' := by
  simp only [openAt, openFile, files_write, files_setFiles]
  -- `insert` replaces a pointer that is there
  by_cases hkey : dir = file.dir ∧ id = file.packetId
  · by_cases hindex : modemIndex' = modemIndex
    · subst hindex
      simp [hkey]
    · simp [hkey, hindex, AList.lookup_insert_ne hindex]
  · rw [if_neg hkey, if_neg fun h => hkey ⟨h.1, h.2.1⟩]

/-- A new file holds the start time. -/
theorem disk_openFile (audio : AudioBuffer) (file file' : LogFile) (modemIndex : ℤ) :
    (l.openFile audio file modemIndex).disk file' =
      if file' = file then some [.time audio.bufferStartTime] else l.disk file' := by
  simp only [openFile, disk_write, disk_setFiles]
  split_ifs <;> simp

/-- Closing a file closes it at its key and nowhere else. -/
theorem openAt_closeFile (dir dir' : Direction) (id id' modemIndex modemIndex' fromModemIndex : ℤ) :
    (l.closeFile cfg dir id modemIndex fromModemIndex).openAt dir' id' modemIndex' =
      if dir' = dir ∧ id' = id ∧ modemIndex' = modemIndex then none
      else l.openAt dir' id' modemIndex' := by
  simp only [openAt, files_closeFile]
  by_cases hkey : dir' = dir ∧ id' = id
  · by_cases hindex : modemIndex' = modemIndex
    · subst hindex
      simp [hkey]
    · obtain ⟨rfl, rfl⟩ := hkey
      simp [hindex, AList.lookup_erase_ne hindex]
  · rw [if_neg hkey, if_neg fun h => hkey ⟨h.1, h.2.1⟩]

@[simp]
theorem openAt_write (file : LogFile) (items : List LogItem) (dir : Direction)
    (id modemIndex : ℤ) : (l.write file items).openAt dir id modemIndex =
      l.openAt dir id modemIndex := rfl

@[simp]
theorem openAt_publish (e : LoggerEvent) (dir : Direction) (id modemIndex : ℤ) :
    (l.publish e).openAt dir id modemIndex = l.openAt dir id modemIndex := rfl

/-- A START buffer opens the file of its packet and is written to it; for IN the start of the
packet is announced. -/
theorem receive_start {audio : AudioBuffer} (hb : b.marker = .START)
    (haudio : b.buffer = some audio) :
    receive cfg l (σ, b) =
      let l' := l.openFile audio (σ.file b.packetId) σ.modemIndex
      let l' := if σ.dir = .IN then
        l'.publish { event := .PACKET_START, packetId := b.packetId,
                     txModemId := some σ.modemIndex } else l'
      some (l'.write (σ.file b.packetId) (audio.samples.map .sample)) := by
  -- the two directions differ in the key and in the announcement
  cases σ with
  | detector i =>
      have hptr : ((l.openFile audio (LogStream.file (.detector i) b.packetId) i).publish
          { event := .PACKET_START, packetId := b.packetId, txModemId := some i }).filePtr
            .IN b.packetId i = (_, some (LogStream.file (.detector i) b.packetId)) :=
        filePtr_of_openAt (by simp [openAt_openFile, LogStream.file])
      simp only [LogStream.file] at hptr
      simp [receive, logAudio, logStart, logSamples, hb, haudio, LogStream.dir,
        LogStream.modemIndex, LogStream.file, hptr]
  | processor fromI toI =>
      have hptr : (l.openFile audio (LogStream.file (.processor fromI toI) b.packetId)
          toI).filePtr .OUT b.packetId toI =
            (_, some (LogStream.file (.processor fromI toI) b.packetId)) :=
        filePtr_of_openAt (by simp [openAt_openFile, LogStream.file])
      simp only [LogStream.file] at hptr
      simp [receive, logAudio, logStart, logSamples, hb, haudio, LogStream.dir,
        LogStream.modemIndex, LogStream.file, hptr]

variable (cfg) in
/-- A buffer that is no START, for an open file, is appended to it; an END buffer then closes
the file. -/
theorem receive_of_openAt {audio : AudioBuffer} {file : LogFile} (hstart : b.marker ≠ .START)
    (haudio : b.buffer = some audio)
    (hopen : l.openAt σ.dir b.packetId σ.modemIndex = some file) :
    receive cfg l (σ, b) =
      let l' := l.write file (audio.samples.map .sample)
      some (if b.marker = .END then
        l'.closeFile cfg σ.dir b.packetId σ.modemIndex σ.fromModemIndex else l') := by
  -- the pointer is found by the key of the direction
  cases σ with
  | detector i =>
      have hptr := filePtr_of_openAt hopen
      simp only [LogStream.dir, LogStream.modemIndex] at hptr
      simp [receive, logAudio, logStart, logSamples, hstart, hptr, haudio, LogStream.dir,
        LogStream.modemIndex, LogStream.fromModemIndex]
      split_ifs <;> rfl
  | processor fromI toI =>
      have hptr := filePtr_of_openAt hopen
      simp only [LogStream.dir, LogStream.modemIndex] at hptr
      simp [receive, logAudio, logStart, logSamples, hstart, hptr, haudio, LogStream.dir,
        LogStream.modemIndex, LogStream.fromModemIndex]
      split_ifs <;> rfl

end Receive

end LoggerThread

end Netsim
