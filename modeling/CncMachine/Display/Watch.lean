/-!
# Areas of a screen drawn again when a watched value changes

A screen shows data of type `δ`. Each of its areas is drawn by a watch: it keeps the value (of
type `κ`) it has drawn last and draws again when the data no longer compares equal with it. The
comparison may look at less than what the area shows, and it may call a value equal that was
never drawn.

`Tile.Current` relates an area to the data it was last brought up to date with: it shows this
data and compares like it. `Watch.shown_refresh_iff` and `Tile.Current.kept_iff` say exactly when
bringing an area up to date leaves it as drawing it would.
-/

namespace Display

universe u v w

/-- What an area shows, and when it is drawn again. -/
structure Watch (δ : Type u) (κ : Type v) (ν : Type w) where
  key : δ → κ
  content : δ → ν
  changed : κ → δ → Bool
  /-- A value that compares equal to the data is as good as the data's own. -/
  interchangeable : ∀ {k d}, changed k d = false → ∀ d', changed k d' = changed (key d) d'

/-- The value drawn last and what was written last. -/
structure Tile (κ : Type v) (ν : Type w) where
  cached : κ
  shown : ν
deriving DecidableEq

variable {δ : Type u} {κ : Type v} {ν : Type w}

/-- Draw the area if the value has changed, or if every value counts as changed. -/
def Watch.refresh (watch : Watch δ κ ν) (all : Bool) (d : δ) (tile : Tile κ ν) : Tile κ ν :=
  if all || watch.changed tile.cached d then ⟨watch.key d, watch.content d⟩ else tile

/-- The area shows the data and compares like it. -/
structure Tile.Current (watch : Watch δ κ ν) (d : δ) (tile : Tile κ ν) : Prop where
  shown : tile.shown = watch.content d
  cached : ∀ d', watch.changed tile.cached d' = watch.changed (watch.key d) d'

namespace Watch

variable (watch : Watch δ κ ν) {d : δ} {tile : Tile κ ν}

theorem refresh_of_changed (change : watch.changed tile.cached d = true) (all : Bool) :
    watch.refresh all d tile = ⟨watch.key d, watch.content d⟩ := by
  rw [refresh, change, Bool.or_true, if_pos rfl]

theorem refresh_of_unchanged (same : watch.changed tile.cached d = false) :
    watch.refresh false d tile = tile := by
  simp [refresh, same]

/-- If the area is passed over, it shows the data already. -/
def Kept (d : δ) (tile : Tile κ ν) : Prop :=
  watch.changed tile.cached d = false → tile.shown = watch.content d

theorem shown_refresh_iff :
    (watch.refresh false d tile).shown = watch.content d ↔ watch.Kept d tile := by
  simp only [Kept]
  cases change : watch.changed tile.cached d with
  | true => simp [watch.refresh_of_changed change]
  | false => simp [watch.refresh_of_unchanged change]

theorem current_refresh (agrees : (watch.refresh false d tile).shown = watch.content d) :
    (watch.refresh false d tile).Current watch d := by
  refine ⟨agrees, ?_⟩
  cases change : watch.changed tile.cached d with
  | true => simp [watch.refresh_of_changed change]
  | false =>
      rw [watch.refresh_of_unchanged change]
      exact watch.interchangeable change

end Watch

/-- From one data to the next, an area goes wrong only if the two compare equal and look
different. -/
theorem Tile.Current.kept_iff {watch : Watch δ κ ν} {d d' : δ} {tile : Tile κ ν}
    (current : tile.Current watch d) : watch.Kept d' tile ↔
      (watch.changed (watch.key d) d' = false → watch.content d = watch.content d') := by
  rw [Watch.Kept, current.cached, current.shown]

end Display
