import Netsim.Lib.Decimal
import Netsim.Lib.Delimited
import Netsim.Lib.Glob
import Netsim.Logger.Model

/-!
# Paths of log files

The path of a log file has the directory in it, the start time of the logger, the packet id and the
indices of the modems. The script that plots a packet looks for the file of the transmitter under
its path, and for those of the receivers with a pattern, whose asterisk stands for the receiver.

But an index that is not followed by a delimiter may go on: the pattern also finds the files of
transmitters whose decimal begins with that of the transmitter (`finds_outGlob_iff`).
-/

namespace Netsim

/-- An `int` in decimal. -/
def decimal (n : ℤ) : List Char :=
  if n < 0 then '-' :: Nat.toDigits 10 n.natAbs else Nat.toDigits 10 n.natAbs

/-- `setw(width)` and `setfill('0')`. -/
def setw (width : ℕ) (n : ℤ) : List Char := List.leftpad width '0' (decimal n)

/-- The format `%0{width}d`. -/
def sprintf (width : ℕ) (n : ℤ) : List Char :=
  -- the zeros come behind the sign
  if n < 0 then '-' :: Decimal.padded (width - 1) n.natAbs else Decimal.padded width n.natAbs

/-- What the paths of all files of a run begin with. -/
def pathBegin (logDirectory startTime : String) : List Char :=
  logDirectory.toList ++ "/netsim_".toList ++ startTime.toList ++ ['_']

/-- The path of a log file. -/
def LogFile.path (cfg : LoggerConfig) (file : LogFile) : List Char :=
  pathBegin cfg.logDirectory cfg.startTime ++
    ((if file.dir = .IN then "in_" else "out_").toList ++ setw 3 file.packetId ++ "_tx".toList ++
      decimal file.fromModemIndex ++
        (file.toModemIndex.elim [] fun toModemIndex => "_rx".toList ++ decimal toModemIndex) ++
          ".bin".toList)

/-! ### The plot script -/

/-- What `liaison_plot_signal.m` is called with. -/
structure LiaisonPlotSignal where
  /-- `dir`. -/
  dir : String
  /-- `run_start`. -/
  runStart : String
  /-- `packet_id`. -/
  packetId : ℤ
  /-- `tx_modem_id`. -/
  txModemId : ℤ

namespace LiaisonPlotSignal

variable (args : LiaisonPlotSignal)

/-- The pattern of `in_files`, which has no asterisk. -/
def inPattern : List Char :=
  pathBegin args.dir args.runStart ++ ("in_".toList ++ sprintf 3 args.packetId ++ "_tx".toList ++
    decimal args.txModemId ++ ".bin".toList)

/-- The pattern of `out_files`. -/
def outGlob : Glob where
  before := pathBegin args.dir args.runStart ++ ("out_".toList ++ sprintf 3 args.packetId ++
    "_tx".toList ++ decimal args.txModemId)
  after := ".bin".toList

/-- The path that a figure is printed to, without its extension. -/
def figure (name : String) : List Char :=
  pathBegin args.dir args.runStart ++ sprintf 3 args.packetId ++ "_".toList ++ name.toList

end LiaisonPlotSignal

/-! ### Decimals -/

section Decimals

variable {n : ℤ}

theorem decimal_of_nonneg (h : 0 ≤ n) : decimal n = Nat.toDigits 10 n.natAbs :=
  if_neg (not_lt.2 h)

theorem setw_of_nonneg (h : 0 ≤ n) : setw 3 n = Decimal.padded 3 n.natAbs := by
  rw [setw, decimal_of_nonneg h, Decimal.padded]

theorem sprintf_of_nonneg (h : 0 ≤ n) : sprintf 3 n = Decimal.padded 3 n.natAbs :=
  if_neg (not_lt.2 h)

/-- The digits end at any character that is none. -/
theorem not_mem_decimal (h : 0 ≤ n) {c : Char} (hc : c.isDigit = false) : c ∉ decimal n := by
  rw [decimal_of_nonneg h]
  intro hmem
  rw [Nat.isDigit_of_mem_toDigits (by decide) (by decide) hmem] at hc
  cases hc

theorem not_mem_padded {width m : ℕ} {c : Char} (hc : c.isDigit = false) :
    c ∉ Decimal.padded width m := by
  intro hmem
  rw [Decimal.isDigit_of_mem_padded hmem] at hc
  cases hc

theorem decimal_inj {m : ℤ} (hn : 0 ≤ n) (hm : 0 ≤ m) (h : decimal n = decimal m) : n = m := by
  rw [decimal_of_nonneg hn, decimal_of_nonneg hm] at h
  have hread := congrArg (Nat.ofDigitChars 10 · 0) h
  simp only [Nat.ofDigitChars_ten_toDigits] at hread
  omega

end Decimals

/-! ### The fields of a path -/

section Fields

variable {cfg : LoggerConfig} {σ τ : LogStream} {id id' : ℤ}

/-- The direction in a path. -/
def Direction.chars : Direction → List Char
  | .IN => ['i', 'n']
  | .OUT => ['o', 'u', 't']

/-- What comes behind the packet id. -/
def LogStream.modems : LogStream → List Char
  | .detector i => decimal i ++ ".bin".toList
  | .processor fromI toI => decimal fromI ++ '_' :: ("rx".toList ++ decimal toI ++ ".bin".toList)

/-- The fields of a path, behind the start time. -/
def pathFields (dir : Direction) (id : ℕ) (modems : List Char) : List Char :=
  dir.chars ++ '_' :: (Decimal.padded 3 id ++ '_' :: 't' :: 'x' :: modems)

/-- The fields can be told apart. -/
theorem pathFields_inj {dir dir' : Direction} {m n : ℕ} {modems modems' : List Char}
    (h : pathFields dir m modems = pathFields dir' n modems') :
    dir = dir' ∧ m = n ∧ modems = modems' := by
  have hchars (dir : Direction) : '_' ∉ dir.chars := by cases dir <;> decide
  obtain ⟨hdir, h⟩ := Delimited.record_inj '_' (hchars dir) (hchars dir') h
  obtain ⟨hid, h⟩ := Delimited.record_inj '_' (not_mem_padded rfl) (not_mem_padded rfl) h
  refine ⟨?_, Decimal.padded_inj hid, by simpa using h⟩
  cases dir <;> cases dir' <;> first | rfl | cases hdir

theorem path_file (cfg : LoggerConfig) (σ : LogStream) (h : 0 ≤ id) : (σ.file id).path cfg =
    pathBegin cfg.logDirectory cfg.startTime ++ pathFields σ.dir id.natAbs σ.modems := by
  cases σ <;>
    simp [LogFile.path, LogStream.file, LogStream.dir, Direction.chars, LogStream.modems,
      setw_of_nonneg h, pathFields]

theorem inPattern_eq {args : LiaisonPlotSignal} (h : 0 ≤ args.packetId) : args.inPattern =
    pathBegin args.dir args.runStart ++
      pathFields .IN args.packetId.natAbs (LogStream.detector args.txModemId).modems := by
  simp [LiaisonPlotSignal.inPattern, Direction.chars, sprintf_of_nonneg h, pathFields,
    LogStream.modems]

theorem before_outGlob {args : LiaisonPlotSignal} (h : 0 ≤ args.packetId) : args.outGlob.before =
    pathBegin args.dir args.runStart ++
      pathFields .OUT args.packetId.natAbs (decimal args.txModemId) := by
  simp [LiaisonPlotSignal.outGlob, Direction.chars, sprintf_of_nonneg h, pathFields]

/-- The indices of the modems are no negative numbers. -/
def LogStream.Nonneg (σ : LogStream) : Prop := 0 ≤ σ.fromModemIndex ∧ 0 ≤ σ.modemIndex

instance : DecidablePred LogStream.Nonneg := fun _ => inferInstanceAs (Decidable (_ ∧ _))

/-- The modems can be told apart. -/
theorem modems_inj (hσ : σ.Nonneg) (hτ : τ.Nonneg) (hdir : σ.dir = τ.dir)
    (h : σ.modems = τ.modems) : σ = τ := by
  cases σ with
  | detector i =>
      cases τ with
      | detector j =>
          have hij : i = j := decimal_inj hσ.1 hτ.1 (List.append_cancel_right h)
          rw [hij]
      | processor fromJ toJ => cases hdir
  | processor fromI toI =>
      cases τ with
      | detector j => cases hdir
      | processor fromJ toJ =>
          obtain ⟨hfrom, h⟩ := Delimited.record_inj '_' (not_mem_decimal hσ.1 rfl)
            (not_mem_decimal hτ.1 rfl) h
          have hto := List.append_cancel_left (List.append_cancel_right h)
          have hfromI : fromI = fromJ := decimal_inj hσ.1 hτ.1 hfrom
          have htoI : toI = toJ := decimal_inj hσ.2 hτ.2 hto
          rw [hfromI, htoI]

/-- Different files have different paths. -/
theorem path_inj (hσ : σ.Nonneg) (hτ : τ.Nonneg) (hid : 0 ≤ id) (hid' : 0 ≤ id') :
    (σ.file id).path cfg = (τ.file id').path cfg ↔ σ.file id = τ.file id' := by
  refine ⟨fun h => ?_, fun h => by rw [h]⟩
  rw [path_file cfg σ hid, path_file cfg τ hid'] at h
  obtain ⟨hdir, hnat, hmodems⟩ := pathFields_inj (List.append_cancel_left h)
  rw [modems_inj hσ hτ hdir hmodems, show id = id' by omega]

/-- The pattern of `in_files` finds the file of the transmitter. -/
theorem path_eq_inPattern_iff {i : ℤ} (hσ : σ.Nonneg) (hid : 0 ≤ id) (hid' : 0 ≤ id')
    (hi : 0 ≤ i) :
    (σ.file id).path cfg = LiaisonPlotSignal.inPattern ⟨cfg.logDirectory, cfg.startTime, id', i⟩ ↔
      σ.file id = (LogStream.detector i).file id' := by
  have hdetector : (LogStream.detector i).Nonneg := ⟨hi, hi⟩
  rw [inPattern_eq hid', ← path_inj hσ hdetector hid hid', path_file cfg (.detector i) hid']
  rfl

/-- The pattern of `out_files` finds the files of the packets with the id that are received from
transmitters whose decimal begins with that of the transmitter. -/
theorem matches_outGlob_iff {i : ℤ} (hσ : σ.Nonneg) (hid : 0 ≤ id) (hid' : 0 ≤ id') (hi : 0 ≤ i) :
    (LiaisonPlotSignal.outGlob ⟨cfg.logDirectory, cfg.startTime, id', i⟩).Matches
        ((σ.file id).path cfg) ↔
      σ.dir = .OUT ∧ id = id' ∧ decimal i <+: decimal σ.fromModemIndex := by
  rw [Glob.matches_iff, before_outGlob hid', path_file cfg σ hid]
  have hfields (any : List Char) : pathFields .OUT id'.natAbs (decimal i) ++ any ++ ".bin".toList =
      pathFields .OUT id'.natAbs (decimal i ++ (any ++ ".bin".toList)) := by
    simp [pathFields]
  constructor
  · rintro ⟨any, hpath, -⟩
    have hsame : pathFields σ.dir id.natAbs σ.modems =
        pathFields .OUT id'.natAbs (decimal i ++ (any ++ ".bin".toList)) := by
      rw [List.append_assoc, List.append_assoc] at hpath
      rw [← hfields, List.append_assoc]
      exact List.append_cancel_left hpath
    obtain ⟨hdir, hnat, hmodems⟩ := pathFields_inj hsame
    refine ⟨hdir, by omega, ?_⟩
    cases σ with
    | detector j => cases hdir
    | processor fromI toI =>
        -- the decimal of the pattern has no delimiter in it
        rcases List.append_eq_append_iff.1 hmodems with ⟨more, hmore, hrest⟩ | ⟨more, hmore, -⟩
        · cases more with
          | nil =>
              rw [List.append_nil] at hmore
              exact hmore ▸ List.prefix_rfl
          | cons c more =>
              rw [List.cons_append, List.cons.injEq] at hrest
              refine absurd ?_ (not_mem_decimal hi (c := '_') rfl)
              rw [hmore, hrest.1]
              simp
        · exact ⟨more, hmore.symm⟩
  · rintro ⟨hdir, rfl, more, hmore⟩
    cases σ with
    | detector j => cases hdir
    | processor fromI toI =>
        have hslash : '/' ∉ more ++ '_' :: ("rx".toList ++ decimal toI) := by
          have hfrom := not_mem_decimal hσ.1 (c := '/') rfl
          have hto : '/' ∉ decimal toI := not_mem_decimal hσ.2 rfl
          rw [← hmore, List.mem_append, not_or] at hfrom
          simp [hfrom.2, hto]
        refine ⟨more ++ '_' :: ("rx".toList ++ decimal toI), ?_, hslash⟩
        have hmodems : (LogStream.processor fromI toI).modems =
            decimal i ++ ((more ++ '_' :: ("rx".toList ++ decimal toI)) ++ ".bin".toList) := by
          rw [LogStream.modems, ← List.append_assoc, ← List.append_assoc, hmore]
          simp [LogStream.fromModemIndex]
        rw [hmodems, hdir, ← hfields]
        simp only [List.append_assoc]
        rfl

/-- No wildcards are in the directory or in the start time. -/
structure LoggerConfig.Plain (cfg : LoggerConfig) : Prop where
  logDirectory : Glob.Literal cfg.logDirectory.toList
  startTime : Glob.Literal cfg.startTime.toList

theorem literal_of_isDigit {text : List Char} (h : ∀ c ∈ text, c.isDigit) : Glob.Literal text := by
  have hnone : Glob.wildcards.all (!·.isDigit) = true := by decide
  intro c hc hwild
  have hdigit := List.all_eq_true.1 hnone c hwild
  rw [h c hc] at hdigit
  cases hdigit

theorem literal_decimal {i : ℤ} (hi : 0 ≤ i) : Glob.Literal (decimal i) := by
  refine literal_of_isDigit fun c hc => ?_
  by_contra hdigit
  exact not_mem_decimal hi (by simpa using hdigit) hc

theorem literal_pathBegin (hcfg : cfg.Plain) :
    Glob.Literal (pathBegin cfg.logDirectory cfg.startTime) := by
  rw [pathBegin, Glob.literal_append, Glob.literal_append, Glob.literal_append]
  exact ⟨⟨⟨hcfg.logDirectory, by decide⟩, hcfg.startTime⟩, by decide⟩

theorem literal_pathFields {modems : List Char} (dir : Direction) (n : ℕ)
    (h : Glob.Literal modems) : Glob.Literal (pathFields dir n modems) := by
  have hdir : Glob.Literal dir.chars := by cases dir <;> decide
  have hpadded : Glob.Literal (Decimal.padded 3 n) :=
    literal_of_isDigit fun c hc => Decimal.isDigit_of_mem_padded hc
  simp only [pathFields, Glob.literal_append, Glob.literal_cons]
  exact ⟨hdir, by decide, hpadded, by decide, by decide, by decide, h⟩

/-- `glob` finds the file of the transmitter. -/
theorem finds_inPattern_iff (lib : GlobLibrary) (hcfg : cfg.Plain) {i : ℤ} (hσ : σ.Nonneg)
    (hid : 0 ≤ id) (hid' : 0 ≤ id') (hi : 0 ≤ i) :
    lib.Finds (LiaisonPlotSignal.inPattern ⟨cfg.logDirectory, cfg.startTime, id', i⟩)
        ((σ.file id).path cfg) ↔ σ.file id = (LogStream.detector i).file id' := by
  refine (lib.finds_literal ?_).trans (path_eq_inPattern_iff hσ hid hid' hi)
  have hmodems : Glob.Literal (LogStream.detector i).modems :=
    Glob.literal_append.2 ⟨literal_decimal hi, by decide⟩
  rw [inPattern_eq hid', Glob.literal_append]
  exact ⟨literal_pathBegin hcfg, literal_pathFields _ _ hmodems⟩

/-- `glob` finds the files of the receivers. -/
theorem finds_outGlob_iff (lib : GlobLibrary) (hcfg : cfg.Plain) {i : ℤ} (hσ : σ.Nonneg)
    (hid : 0 ≤ id) (hid' : 0 ≤ id') (hi : 0 ≤ i) :
    lib.Finds (LiaisonPlotSignal.outGlob ⟨cfg.logDirectory, cfg.startTime, id', i⟩).pattern
        ((σ.file id).path cfg) ↔
      σ.dir = .OUT ∧ id = id' ∧ decimal i <+: decimal σ.fromModemIndex := by
  have hafter : Glob.Literal ".bin".toList := by decide
  refine (lib.finds_pattern ⟨?_, hafter, ?_⟩).trans (matches_outGlob_iff hσ hid hid' hi)
  · rw [before_outGlob hid', Glob.literal_append]
    exact ⟨literal_pathBegin hcfg, literal_pathFields _ _ (literal_decimal hi)⟩
  · -- the last character is a digit
    have hne : decimal i ≠ [] := by
      rw [decimal_of_nonneg hi]
      exact Nat.toDigits_ne_nil
    refine ⟨(decimal i).getLast hne, ?_, fun heq => ?_⟩
    · rw [LiaisonPlotSignal.outGlob, ← List.append_assoc, ← List.append_assoc,
        List.getLast?_append_of_ne_nil _ hne, List.getLast?_eq_some_getLast hne]
      rfl
    · exact not_mem_decimal hi (c := '/') rfl (heq ▸ List.getLast_mem hne)

end Fields

end Netsim
