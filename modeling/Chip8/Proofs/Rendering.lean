import Chip8.Display
import Mathlib.Data.List.Basic

/-!
# Rendering a display

A renderer shows a picture and takes a frame of the display from time to time, which replaces the
picture if its flag is raised and is thrown away otherwise. Taking a frame lowers the flag, so a frame
that is thrown away will not come again. It need not: as long as the flag is down, the picture that is
shown is the one on the display.
-/

namespace Chip8

/-- What is done to a display. -/
inductive DisplayUse
  /-- All pixels are put out. -/
  | clear
  /-- A sprite is drawn at a place. -/
  | draw (sprite : List UInt8) (x y : UInt8)
  /-- A frame is taken. -/
  | snapshot
deriving DecidableEq

/-- The picture that is shown after a frame was taken. -/
def Bitmap.renderedAfter (shown : Bitmap) (frame : Frame) : Bitmap :=
  if frame.dirty then frame.bitmap else shown

/-- A display, and the picture that its renderer shows. -/
structure Rendering where
  /-- The display. -/
  display : Display
  /-- What is shown of it. -/
  shown : Bitmap
deriving DecidableEq

namespace Rendering

/-- A new display, of which nothing was shown yet. -/
def start : Rendering := ⟨.blank, .blank⟩

/-- The display is used once. -/
def step (r : Rendering) : DisplayUse → Rendering
  | .clear => { r with display := r.display.clear }
  | .draw sprite x y => { r with display := (r.display.draw sprite x y).2 }
  | .snapshot =>
    let (frame, display) := r.display.snapshot
    ⟨display, r.shown.renderedAfter frame⟩

/-- The display is used several times. -/
def run (r : Rendering) (uses : List DisplayUse) : Rendering := uses.foldl step r

/-- The display differs from what is shown of it only while its flag is raised. -/
def UpToDate (r : Rendering) : Prop := r.display.dirty = false → r.shown = r.display.bitmap

variable {r r' : Rendering} {use : DisplayUse} {uses : List DisplayUse}

theorem run_append_singleton : r.run (uses ++ [use]) = (r.run uses).step use := by
  rw [run, List.foldl_append]
  rfl

/-! ## The flag -/

theorem dirty_step : (r.step use).display.dirty = true ↔ use ≠ .snapshot := by
  cases use with
  | clear | draw => exact iff_of_true rfl DisplayUse.noConfusion
  | snapshot => exact iff_of_false Bool.false_ne_true fun h => h rfl

/-- The flag is raised exactly if the display was cleared or drawn on behind the last frame. Only the
last use counts for the flag, and every use behind the last frame is of this kind. -/
theorem dirty_run_start : (start.run uses).display.dirty = true ↔
    ∃ before use later, uses = before ++ use :: later ∧ use ≠ .snapshot ∧
      DisplayUse.snapshot ∉ later := by
  rcases List.eq_nil_or_concat' uses with rfl | ⟨before, last, rfl⟩
  · refine iff_of_false Bool.false_ne_true ?_
    rintro ⟨before, use, later, hsplit, -⟩
    exact absurd hsplit (by simp)
  · rw [run_append_singleton, dirty_step]
    constructor
    · intro hlast
      exact ⟨before, last, [], rfl, hlast, List.not_mem_nil⟩
    · rintro ⟨before', use, later, hsplit, huse, hlater⟩ rfl
      have hlast : (use :: later).getLast? = some .snapshot := by
        rw [← List.getLast?_append_of_ne_nil before' (List.cons_ne_nil use later), ← hsplit,
          List.getLast?_concat]
      rcases List.mem_cons.mp (List.mem_of_getLast? hlast) with heq | hmem
      · exact huse heq.symm
      · exact hlater hmem

/-! ## The picture -/

theorem upToDate_step (h : UpToDate r) (use : DisplayUse) : UpToDate (r.step use) := by
  cases use with
  | clear | draw =>
    intro hlowered
    exact absurd hlowered.symm Bool.false_ne_true
  | snapshot =>
    intro _
    by_cases hdirty : r.display.dirty = true
    · exact if_pos hdirty
    · exact (if_neg hdirty).trans (h (Bool.eq_false_iff.mpr hdirty))

theorem upToDate_run (h : UpToDate r) (uses : List DisplayUse) : UpToDate (r.run uses) := by
  induction uses generalizing r with
  | nil => exact h
  | cons use uses ih => exact ih (upToDate_step h use)

theorem bitmap_step (h : r.display.bitmap = r'.display.bitmap) (use : DisplayUse) :
    (r.step use).display.bitmap = (r'.step use).display.bitmap := by
  cases use with
  | clear => rfl
  | draw sprite x y =>
    show (r.display.bitmap.draw sprite x y).2 = (r'.display.bitmap.draw sprite x y).2
    rw [h]
  | snapshot => exact h

/-- The pictures on a display are the same if no frame is ever taken of it. -/
theorem bitmap_run_filter (h : r.display.bitmap = r'.display.bitmap) (uses : List DisplayUse) :
    (r.run uses).display.bitmap = (r'.run (uses.filter (· ≠ .snapshot))).display.bitmap := by
  induction uses generalizing r r' with
  | nil => exact h
  | cons use uses ih =>
    by_cases huse : use = .snapshot
    · subst huse
      rw [List.filter_cons_of_neg (by simp)]
      exact ih h
    · rw [List.filter_cons_of_pos (by simpa using huse)]
      exact ih (bitmap_step h use)

end Rendering

/-- However a new display is used: whenever a frame is taken, the renderer then shows what is on the
display, the frame is worth showing exactly if the display was cleared or drawn on since the last one,
and frames leave no trace on the display. -/
theorem renderer_misses_nothing (uses : List DisplayUse) :
    let seen := Rendering.start.run uses
    let next := seen.step .snapshot
    next.shown = next.display.bitmap ∧
      (seen.display.snapshot.1.dirty = true ↔
        ∃ before use later, uses = before ++ use :: later ∧ use ≠ .snapshot ∧
          DisplayUse.snapshot ∉ later) ∧
      seen.display.snapshot.1.bitmap = seen.display.bitmap ∧
      next.display.bitmap = seen.display.bitmap ∧
      next.display.bitmap =
        (Rendering.start.run (uses.filter (· ≠ .snapshot))).display.bitmap := by
  intro seen next
  have hstart : Rendering.start.UpToDate := fun _ => rfl
  have hseen : seen.UpToDate := Rendering.upToDate_run hstart uses
  have hnext : next.UpToDate := Rendering.upToDate_step hseen .snapshot
  refine ⟨hnext rfl, Rendering.dirty_run_start, rfl, rfl, ?_⟩
  exact Rendering.bitmap_run_filter rfl uses

end Chip8
