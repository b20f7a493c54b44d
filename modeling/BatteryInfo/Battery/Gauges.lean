import BatteryInfo.Binary64.Scaling
import BatteryInfo.Decimal.Numerals

/-!
# The gauges of the battery

The four functions that read a number from a file of the battery driver. They share one way of
reading: a variable that starts as the error value -1 is set to it again if the file ends before
a number, and stays as it is if something else is found. Two of them go on to scale the variable
and so turn the error value into 0 (`failed_reading_reported`).
-/

namespace BatteryInfo.Battery

open Decimal

/-- The range of an `int`. -/
def InInt (n : Int) : Prop :=
  -2 ^ 31 ≤ n ∧ n < 2 ^ 31

instance (n : Int) : Decidable (InInt n) :=
  inferInstanceAs (Decidable (_ ∧ _))

/-- What `fscanf` stores for a number that it reads with `%d`. C leaves open what that is if the
number is no `int`. -/
structure Conversion where
  store : Int → Int
  inInt : ∀ n, InInt (store n)
  same : ∀ n, InInt n → store n = n

/-- The nearest `int` is stored. -/
def Conversion.clamp : Conversion where
  store n := max (-2 ^ 31) (min n (2 ^ 31 - 1))
  inInt n := by unfold InInt; omega
  same n h := by unfold InInt at h; omega

/-- A file of the driver: what it contains, if it can be opened, and whether closing it
succeeds. -/
structure GaugeFile where
  content : Option (List Char)
  closes : Bool
deriving DecidableEq, Repr

/-- `int value = -1; if (fscanf(file, "%d", &value) == EOF) value = -1;` -/
def scanValue (conv : Conversion) (content : List Char) : Int :=
  match scanInt content with
  | .eof => -1
  | .mismatch => -1
  | .number n => conv.store n

/-- `GetBatteryPercentage`. -/
def getBatteryPercentage (conv : Conversion) (file : GaugeFile) : Int :=
  match file.content with
  | none => -1
  | some content =>
      let percentage := scanValue conv content
      if ¬ file.closes then -1 else percentage

/-- `GetBatteryTemp`. -/
def getBatteryTemp (conv : Conversion) (file : GaugeFile) : Int :=
  match file.content with
  | none => -1
  | some content => scanValue conv content

/-- The double `0.001`. -/
def oneThousandth : Binary64.Fraction :=
  ⟨4611686018427388, 62, by decide⟩

/-- The double `0.0001`. -/
def oneTenThousandth : Binary64.Fraction :=
  ⟨7378697629483821, 66, by decide⟩

/-- `GetBatteryCurrent`. -/
def getBatteryCurrent (conv : Conversion) (file : GaugeFile) : Int :=
  match file.content with
  | none => -1
  | some content => Binary64.scale (scanValue conv content) oneThousandth

/-- `GetBatteryVoltage`. -/
def getBatteryVoltage (conv : Conversion) (file : GaugeFile) : Int :=
  match file.content with
  | none => -1
  | some content => Binary64.scale (scanValue conv content) oneTenThousandth

/-- The four functions. -/
inductive Gauge where
  | percentage
  | temp
  | current
  | voltage
deriving DecidableEq, Repr

/-- The function of a gauge. -/
def Gauge.get : Gauge → Conversion → GaugeFile → Int
  | .percentage => getBatteryPercentage
  | .temp => getBatteryTemp
  | .current => getBatteryCurrent
  | .voltage => getBatteryVoltage

/-- No integer can be read: the file cannot be opened, or it does not begin with one. -/
def GaugeFile.Unreadable (file : GaugeFile) : Prop :=
  ∀ content ∈ file.content, ¬ StartsWithInt content

/-- There is no integer in an empty file. -/
theorem unreadable_empty (closes : Bool) : GaugeFile.Unreadable ⟨some [], closes⟩ := by
  intro content hcontent
  cases hcontent
  rintro ⟨space, sign, digit, rest, htext, -⟩
  simp at htext

theorem scanValue_inInt (conv : Conversion) (content : List Char) :
    InInt (scanValue conv content) := by
  unfold scanValue
  split
  · decide
  · decide
  · exact conv.inInt _

theorem scanValue_unreadable {conv : Conversion} {content : List Char}
    (h : ¬ StartsWithInt content) : scanValue conv content = -1 := by
  unfold scanValue
  split
  · rfl
  · rfl
  · rename_i n hscan
    exact absurd (scanInt_eq_number_iff.1 ⟨n, hscan⟩) h

/-- An `int` times the double `0.001`, cut off, is a thousandth of it. -/
theorem scale_oneThousandth {n : Int} (hn : InInt n) :
    Binary64.scale n oneThousandth = n.tdiv 1000 := by
  unfold InInt at hn
  exact Binary64.scale_eq_tdiv (by omega) (by decide) (by decide) (by decide) (by decide)

/-- An `int` times the double `0.0001`, cut off, is a ten-thousandth of it. -/
theorem scale_oneTenThousandth {n : Int} (hn : InInt n) :
    Binary64.scale n oneTenThousandth = n.tdiv 10000 := by
  unfold InInt at hn
  exact Binary64.scale_eq_tdiv (by omega) (by decide) (by decide) (by decide) (by decide)

theorem getBatteryCurrent_of_content (conv : Conversion) (content : List Char) (closes : Bool) :
    getBatteryCurrent conv ⟨some content, closes⟩ = (scanValue conv content).tdiv 1000 :=
  scale_oneThousandth (scanValue_inInt conv content)

theorem getBatteryVoltage_of_content (conv : Conversion) (content : List Char) (closes : Bool) :
    getBatteryVoltage conv ⟨some content, closes⟩ = (scanValue conv content).tdiv 10000 :=
  scale_oneTenThousandth (scanValue_inInt conv content)

/-- A gauge returns the error value for a file from which no integer can be read exactly if the
file cannot be opened, or the gauge does not scale what it reads. -/
theorem failed_reading_reported (conv : Conversion) (gauge : Gauge) (file : GaugeFile)
    (hfile : file.Unreadable) :
    gauge.get conv file = -1 ↔
      file.content = none ∨ gauge = .percentage ∨ gauge = .temp := by
  obtain ⟨content, closes⟩ := file
  cases content with
  | none => exact iff_of_true (by cases gauge <;> rfl) (.inl rfl)
  | some content =>
      have hscan : scanValue conv content = -1 := scanValue_unreadable (hfile content rfl)
      cases gauge with
      | percentage => simp [Gauge.get, getBatteryPercentage, hscan]
      | temp => simp [Gauge.get, getBatteryTemp, hscan]
      | current => simp [Gauge.get, getBatteryCurrent_of_content, hscan]
      | voltage => simp [Gauge.get, getBatteryVoltage_of_content, hscan]

theorem failed_reading_reported_empty :
    Gauge.temp.get .clamp ⟨some [], true⟩ = -1 :=
  (failed_reading_reported .clamp .temp ⟨some [], true⟩ (unreadable_empty true)).2 (by decide)

/-- The files of the current and the voltage are empty, and both read as 0. -/
theorem empty_file_reads_zero :
    GaugeFile.Unreadable ⟨some [], true⟩ ∧
      Gauge.current.get .clamp ⟨some [], true⟩ = 0 ∧
      Gauge.voltage.get .clamp ⟨some [], true⟩ = 0 :=
  ⟨unreadable_empty true, by decide, by decide⟩

/-! ## What the driver writes -/

/-- What a gauge divides by. -/
def Gauge.unit : Gauge → Int
  | .percentage | .temp => 1
  | .current => 1000
  | .voltage => 10000

/-- What a gauge makes of a file that can be opened. The doubles are exact enough for every
`int`. -/
theorem get_of_content (conv : Conversion) (g : Gauge) (content : List Char) (closes : Bool) :
    g.get conv ⟨some content, closes⟩ =
      if g = .percentage ∧ ¬ closes then -1 else (scanValue conv content).tdiv g.unit := by
  cases g with
  | percentage =>
      show (if ¬ closes then -1 else scanValue conv content) = _
      simp [Gauge.unit]
  | temp =>
      show scanValue conv content = _
      simp [Gauge.unit]
  | current => exact getBatteryCurrent_of_content conv content closes
  | voltage => exact getBatteryVoltage_of_content conv content closes

/-- A number that the driver writes is read as what it is, whatever blanks are before it and
whatever else than a digit follows. -/
theorem scanValue_numeral (conv : Conversion) {n : Int} (hn : InInt n) {space rest : List Char}
    (hspace : ∀ c ∈ space, isSpace c) (hrest : ∀ c ∈ rest.head?, ¬ c.isDigit) :
    scanValue conv (space ++ (ofInt n ++ rest)) = n := by
  unfold scanValue
  rw [scanInt_space_append hspace, scanInt_ofInt n hrest]
  exact conv.same n hn

/-- So a gauge divides it by its unit and cuts it off towards zero. -/
theorem gauges_read_numerals (conv : Conversion) (g : Gauge) {n : Int} (hn : InInt n)
    {space rest : List Char} (hspace : ∀ c ∈ space, isSpace c)
    (hrest : ∀ c ∈ rest.head?, ¬ c.isDigit) (closes : Bool) :
    g.get conv ⟨some (space ++ (ofInt n ++ rest)), closes⟩ =
      if g = .percentage ∧ ¬ closes then -1 else n.tdiv g.unit := by
  rw [get_of_content, scanValue_numeral conv hn hspace hrest]

/-- A current of -1234567 microamperes. -/
theorem gauges_read_numerals_negative :
    Gauge.current.get .clamp ⟨some ([] ++ (ofInt (-1234567) ++ ['\n'])), true⟩ = -1234 := by
  have hnewline : ∀ c ∈ ['\n'].head?, ¬ c.isDigit := by
    rintro c hc
    cases hc
    decide
  exact gauges_read_numerals .clamp .current (by decide) (by simp) hnewline true

/-! ## The health -/

/-- What `file >> h` stores: the first word, if there is one. -/
def scanWord (text : List Char) : Option (List Char) :=
  match (text.dropWhile isSpace).takeWhile fun c => ¬ isSpace c with
  | [] => none
  | word => some word

/-- `GetBatteryHealth`, given what its file contains if it can be opened. Where there is no word the
variable stays as it is. -/
def getBatteryHealth (content : Option (List Char)) : List Char :=
  match content with
  | none => "Error".toList
  | some content => (scanWord content).getD "N/A".toList

/-- The monitor never finds an empty health. -/
theorem getBatteryHealth_ne_nil (content : Option (List Char)) : getBatteryHealth content ≠ [] := by
  cases content with
  | none => simp [getBatteryHealth]
  | some content =>
      simp only [getBatteryHealth, scanWord]
      split
      · simp
      · assumption

end BatteryInfo.Battery
