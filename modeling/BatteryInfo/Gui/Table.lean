import BatteryInfo.Gui.Screen

/-!
# The table of results

`AddTable` takes the number of rows from the `GuiTable` and the texts from the rows of `values`, and
compares neither with the other. It reads the first two texts of as many rows as the table has, and
of the first row in any case. If they are there the table shows them, the rows of a test run with
the result `PASSED` as cells of the first type and the others of the second (`addTable_shows`).
-/

namespace BatteryInfo.Gui

open Objects

namespace LvTable

variable {t t' : LvTable} {row col : Nat}

/-- Two tables with the same cells, which may be set differently. -/
structure SameSize (t t' : LvTable) : Prop where
  rows : t'.rows = t.rows
  cols : t'.cols = t.cols

theorem SameSize.refl (t : LvTable) : SameSize t t :=
  ⟨rfl, rfl⟩

theorem SameSize.trans {t'' : LvTable} (h : SameSize t t') (h' : SameSize t' t'') :
    SameSize t t'' :=
  ⟨h'.rows.trans h.rows, h'.cols.trans h.cols⟩

theorem setCell_sameSize (row col : Nat) (change : Cell → Cell) (t : LvTable) :
    SameSize t (t.setCell row col change) := by
  unfold setCell
  split
  · exact ⟨rfl, rfl⟩
  · exact .refl t

theorem setCell_self {change : Cell → Cell} (hrow : row < t.rows) (hcol : col < t.cols) :
    (t.setCell row col change).cell row col = change (t.cell row col) := by
  unfold setCell
  rw [if_pos ⟨hrow, hcol⟩]
  exact if_pos ⟨rfl, rfl⟩

theorem setCell_of_ne {change : Cell → Cell} {i j : Nat} (hne : ¬ (i = row ∧ j = col)) :
    (t.setCell row col change).cell i j = t.cell i j := by
  unfold setCell
  split
  · exact if_neg hne
  · rfl

/-- A row that is there has these two texts in the first two columns that are there. -/
def ShowsRow (t : LvTable) (row : Nat) (type : CellType) (align : LabelAlign)
    (values : List Char × List Char) : Prop :=
  row < t.rows → (0 < t.cols → t.cell row 0 = ⟨values.1, align, type⟩) ∧
    (1 < t.cols → t.cell row 1 = ⟨values.2, .center, type⟩)

theorem ShowsRow.of_same {type : CellType} {align : LabelAlign} {values : List Char × List Char}
    (h : t.ShowsRow row type align values) (hsize : SameSize t t')
    (hcell : ∀ j, t'.cell row j = t.cell row j) : t'.ShowsRow row type align values := by
  unfold ShowsRow
  rw [hsize.rows, hsize.cols, hcell, hcell]
  exact h

section SetRow

variable (row : Nat) (type : CellType) (align : LabelAlign) (value1 value2 : List Char)
  (t : LvTable)

theorem setRow_sameSize : SameSize t (t.setRow row type align value1 value2) :=
  (setCell_sameSize row 0 (fun _ => ⟨value1, align, type⟩) t).trans
    (setCell_sameSize row 1 (fun _ => ⟨value2, .center, type⟩) _)

theorem setRow_shows :
    (t.setRow row type align value1 value2).ShowsRow row type align (value1, value2) := by
  intro hrow
  have hfirst := setCell_sameSize row 0 (fun _ => ⟨value1, align, type⟩) t
  rw [(setRow_sameSize row type align value1 value2 t).rows] at hrow
  rw [(setRow_sameSize row type align value1 value2 t).cols]
  constructor
  · intro hcol
    show ((t.setCell row 0 _).setCell row 1 _).cell row 0 = _
    rw [setCell_of_ne (by omega), setCell_self hrow hcol]
  · intro hcol
    show ((t.setCell row 0 _).setCell row 1 _).cell row 1 = _
    rw [setCell_self (by rw [hfirst.rows]; exact hrow) (by rw [hfirst.cols]; exact hcol)]

theorem setRow_of_ne {i : Nat} (hne : i ≠ row) (j : Nat) :
    (t.setRow row type align value1 value2).cell i j = t.cell i j := by
  show ((t.setCell row 0 _).setCell row 1 _).cell i j = _
  rw [setCell_of_ne (fun h => hne h.1), setCell_of_ne (fun h => hne h.1)]

end SetRow

end LvTable

open LvTable

/-- The type of the cells of a row with the result `value2`. -/
def resultType (wasTestRun : Bool) (value2 : List Char) : CellType :=
  if wasTestRun ∧ value2 = "PASSED".toList then .cell1 else .cell2

section Loop

variable {values : List (List (List Char))} {wasTestRun : Bool} {t t' : LvTable}

theorem addRow_some {i : Nat} (h : addRow values wasTestRun t i = some t') :
    ∃ row, rowValues values i = some row ∧ SameSize t t' ∧
      t'.ShowsRow i (resultType wasTestRun row.2) .left row ∧
      ∀ i', i' ≠ i → ∀ j, t'.cell i' j = t.cell i' j := by
  obtain ⟨⟨value1, value2⟩, hrow, heq⟩ := Option.bind_eq_some_iff.1 h
  cases heq
  exact ⟨_, hrow, setRow_sameSize .., setRow_shows i _ .left value1 value2 t,
    fun i' hne j => setRow_of_ne i _ .left value1 value2 t hne j⟩

theorem addRow_isSome {i : Nat} {row : List Char × List Char}
    (hrow : rowValues values i = some row) (wasTestRun : Bool) (t : LvTable) :
    ∃ t', addRow values wasTestRun t i = some t' :=
  ⟨_, by unfold addRow; rw [hrow]; rfl⟩

/-- The loop reads every row that it comes to. -/
theorem foldlM_addRow_some {rows : List Nat}
    (h : rows.foldlM (addRow values wasTestRun) t = some t') :
    SameSize t t' ∧ (∀ i, i ∉ rows → ∀ j, t'.cell i j = t.cell i j) ∧
      ∀ i ∈ rows, ∃ row, rowValues values i = some row ∧
        t'.ShowsRow i (resultType wasTestRun row.2) .left row := by
  induction rows generalizing t with
  | nil =>
      cases h
      exact ⟨.refl _, fun _ _ _ => rfl, by simp⟩
  | cons i rest ih =>
      rw [List.foldlM_cons] at h
      obtain ⟨t₁, hfirst, hrest⟩ := Option.bind_eq_some_iff.1 h
      obtain ⟨row, hrow, hsize, hshows, hothers⟩ := addRow_some hfirst
      obtain ⟨hsize', hothers', hshows'⟩ := ih hrest
      refine ⟨hsize.trans hsize', fun i' hi' j => ?_, fun i' hi' => ?_⟩
      · rw [List.mem_cons, not_or] at hi'
        rw [hothers' i' hi'.2, hothers i' hi'.1]
      · by_cases hagain : i' ∈ rest
        · exact hshows' i' hagain
        · -- no later iteration comes back to the row
          obtain rfl : i' = i := (List.mem_cons.1 hi').resolve_right hagain
          exact ⟨row, hrow, hshows.of_same hsize' (hothers' i' hagain)⟩

theorem foldlM_addRow_isSome {rows : List Nat}
    (hrows : ∀ i ∈ rows, ∃ row, rowValues values i = some row) (wasTestRun : Bool) (t : LvTable) :
    ∃ t', rows.foldlM (addRow values wasTestRun) t = some t' := by
  induction rows generalizing t with
  | nil => exact ⟨t, rfl⟩
  | cons i rest ih =>
      obtain ⟨row, hrow⟩ := hrows i List.mem_cons_self
      obtain ⟨t₁, hfirst⟩ := addRow_isSome hrow wasTestRun t
      obtain ⟨t', hrest⟩ := ih (fun i' hi' => hrows i' (List.mem_cons_of_mem _ hi')) t₁
      refine ⟨t', ?_⟩
      rw [List.foldlM_cons, hfirst]
      exact hrest

end Loop

/-- The rows that `AddTable` reads have two texts. -/
def RowsFilled (guiTable : GuiTable) (values : List (List (List Char))) : Prop :=
  ∀ i, i = 0 ∨ i < guiTable.r.toNat → ∃ row, rowValues values i = some row

/-- What the table of a `GuiTable` shows. -/
structure ShowsResults (guiTable : GuiTable) (values : List (List (List Char)))
    (wasTestRun didTestsPass : Bool) (t : LvTable) : Prop where
  rows : t.rows = guiTable.r.toNat
  cols : t.cols = guiTable.c.toNat
  resultColors : t.resultColors = wasTestRun
  header : ∀ row, rowValues values 0 = some row →
    t.ShowsRow 0 (if didTestsPass then .cell1 else .cell2) .center row
  result : ∀ i, 0 < i → ∀ row, rowValues values i = some row →
    t.ShowsRow i (resultType wasTestRun row.2) .left row

variable {guiTable : GuiTable} {values : List (List (List Char))}
  {wasTestRun didTestsPass : Bool} {t : LvTable}

theorem mem_range'_iff {i : Nat} : i ∈ List.range' 1 (guiTable.r.toNat - 1) ↔
    0 < i ∧ i < guiTable.r.toNat := by
  rw [List.mem_range'_1]
  omega

theorem fillTable_some (h : fillTable guiTable values wasTestRun didTestsPass = some t) :
    RowsFilled guiTable values ∧ ShowsResults guiTable values wasTestRun didTestsPass t := by
  obtain ⟨⟨header1, header2⟩, hheader, hrest⟩ := Option.bind_eq_some_iff.1 h
  obtain ⟨t', hloop, heq⟩ := Option.bind_eq_some_iff.1 hrest
  cases heq
  obtain ⟨hsize, hothers, hrows⟩ := foldlM_addRow_some hloop
  have hfirst := setRow_sameSize 0 (if didTestsPass then .cell1 else .cell2) .center header1
    header2 (.sized guiTable.r.toNat guiTable.c.toNat)
  have hzero : 0 ∉ List.range' 1 (guiTable.r.toNat - 1) := by
    rw [mem_range'_iff]
    omega
  constructor
  · rintro i (rfl | hi)
    · exact ⟨_, hheader⟩
    · by_cases hpos : 0 < i
      · obtain ⟨row, hrow, _⟩ := hrows i (mem_range'_iff.2 ⟨hpos, hi⟩)
        exact ⟨row, hrow⟩
      · obtain rfl : i = 0 := by omega
        exact ⟨_, hheader⟩
  · refine ⟨hsize.rows.trans hfirst.rows, hsize.cols.trans hfirst.cols, rfl, ?_, ?_⟩
    · intro row hrow
      cases hheader.symm.trans hrow
      exact (setRow_shows 0 _ .center header1 header2 _).of_same ⟨hsize.rows, hsize.cols⟩
        (hothers 0 hzero)
    · intro i hpos row hrow hi
      have hi' : i < guiTable.r.toNat := hi.trans_eq (hsize.rows.trans hfirst.rows)
      obtain ⟨row', hrow', hshows⟩ := hrows i (mem_range'_iff.2 ⟨hpos, hi'⟩)
      cases hrow.symm.trans hrow'
      exact hshows hi

theorem fillTable_isSome (h : RowsFilled guiTable values) (wasTestRun didTestsPass : Bool) :
    ∃ t, fillTable guiTable values wasTestRun didTestsPass = some t := by
  obtain ⟨⟨header1, header2⟩, hheader⟩ := h 0 (.inl rfl)
  have hrows : ∀ i ∈ List.range' 1 (guiTable.r.toNat - 1), ∃ row, rowValues values i = some row :=
    fun i hi => h i (.inr (mem_range'_iff.1 hi).2)
  obtain ⟨t, hloop⟩ := foldlM_addRow_isSome hrows wasTestRun
    ((sized guiTable.r.toNat guiTable.c.toNat).setRow 0
      (if didTestsPass then .cell1 else .cell2) .center header1 header2)
  refine ⟨{ t with resultColors := wasTestRun }, ?_⟩
  unfold fillTable
  rw [hheader]
  show ((List.range' 1 (guiTable.r.toNat - 1)).foldlM (addRow values wasTestRun) _).bind _ = _
  rw [hloop]
  rfl

variable {κ : Type} {d : Display κ}

/-- `AddTable` stays within `values` exactly if the first row and every row of the table have two
texts there. The new table then shows these texts, each row with the type of its own result. -/
theorem addTable_shows (guiTable : GuiTable) (values : List (List (List Char)))
    (wasTestRun didTestsPass : Bool) (d : Display κ) :
    ((∃ r, d.addTable guiTable values wasTestRun didTestsPass = some r) ↔
        RowsFilled guiTable values) ∧
      ∀ o d', d.addTable guiTable values wasTestRun didTestsPass = some (o, d') →
        ∃ t, d'.forest.node o.handle = some ⟨[d.active], ⟨.table t, .disabled, false⟩⟩ ∧
          ShowsResults guiTable values wasTestRun didTestsPass t := by
  constructor
  · constructor
    · rintro ⟨r, h⟩
      obtain ⟨t, hfill, _⟩ := Option.bind_eq_some_iff.1 h
      exact (fillTable_some hfill).1
    · intro hfilled
      obtain ⟨t, hfill⟩ := fillTable_isSome hfilled wasTestRun didTestsPass
      obtain ⟨d₁, hadd, hadds⟩ := Display.add_eq (.table t) d
      obtain ⟨d₂, hd₂⟩ := Display.modify_eq hadds.alive fun i => { i with state := .disabled }
      refine ⟨(⟨d.forest.next⟩, d₂), ?_⟩
      unfold Display.addTable
      rw [hfill]
      show (d.add (.table t)).bind _ = _
      rw [hadd]
      show (d₁.modify ⟨d.forest.next⟩ _).bind _ = _
      rw [hd₂]
      rfl
  · intro o d' h
    obtain ⟨t, hfill, hrest⟩ := Option.bind_eq_some_iff.1 h
    obtain ⟨⟨table, d₁⟩, hadd, hrest⟩ := Option.bind_eq_some_iff.1 hrest
    obtain ⟨d₂, hmodify, heq⟩ := Option.bind_eq_some_iff.1 hrest
    cases heq
    obtain ⟨d₁', hadd', hadds⟩ := Display.add_eq (.table t) d
    cases hadd.symm.trans hadd'
    refine ⟨t, ?_, (fillTable_some hfill).2⟩
    rw [(Display.modify_some hmodify).2.1]
    show (d₁.forest.modify d.forest.next _).node d.forest.next = _
    rw [Forest.node_modify_self, hadds.self]
    rfl

end BatteryInfo.Gui
