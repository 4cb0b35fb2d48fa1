import Mathlib.Logic.Function.Basic
import RemoteInfra.JavaScript.Strings
import RemoteInfra.Library.OrderedMap

/-!
# The operator console's video grid

The grid shows each camera's track in a slot of the page.  What it knows of a camera is kept in
four places, its map of tracks, the slot's class, the slot's feed and the focus flag, and every
event updates them one by one.
-/

namespace RemoteInfra.Console

open RemoteInfra.Library RemoteInfra.JavaScript

/-- A track as an event brings it.  `element` is what the next `attach()` returns. -/
structure CameraTrack (Object Element : Type) where
  object : Object
  kind : JSString
  name : Option JSString
  element : Element

structure TrackPublication where
  trackName : Option JSString

/-- An element of class `video-slot`.  `feed` holds the children of the `camera-feed` in it. -/
structure VideoSlot (Element : Type) where
  camera : Option JSString
  hasVideo : Bool
  feed : Option (List Element)

/-- The classes that the grid and its container carry. -/
structure LayoutClasses where
  singleCamera : Bool
  multiCamera : Bool
  centerFocused : Bool

/-- What the grid finds on the page; the focus button is known by its text. -/
structure Page (Element : Type) where
  slots : List (VideoSlot Element)
  grid : Option LayoutClasses
  container : Option LayoutClasses
  focusButton : Option JSString

/-- The grid, the parts of the page that it changes, and the elements to which every track is
attached, the latest one last.  `received` counts the calls of `onVideoReceived`. -/
structure VideoGrid (Object Element : Type) where
  slots : OrderedMap JSString (VideoSlot Element)
  tracks : OrderedMap JSString Object
  centerFocused : Bool
  grid : Option LayoutClasses
  container : Option LayoutClasses
  focusButton : Option JSString
  attached : Object → List Element
  received : ℕ

def center : JSString := ofChars "center".toList

variable {Object Element : Type}

/-- `a || b` where `b` is a string or `undefined`. -/
def orElse (a b : Option JSString) : Option JSString :=
  match a with
  | some (unit :: units) => some (unit :: units)
  | _ => b

def cameraName (track : CameraTrack Object Element) (publication : Option TrackPublication) :
    JSString :=
  let name := ((orElse (publication.bind TrackPublication.trackName)
    (orElse track.name (some [])))).getD []
  if name = ofChars "camera".toList then ofChars "front".toList
  else if ofChars "camera-".toList <+: name then name.drop (ofChars "camera-".toList).length
  else []

namespace VideoSlot

def setHasVideo (slot : VideoSlot Element) (b : Bool) : VideoSlot Element :=
  { slot with hasVideo := b }

/-- `replaceChildren()` of the feed, without the class. -/
def clearFeed (slot : VideoSlot Element) : VideoSlot Element :=
  { slot with feed := slot.feed.map fun _ ↦ [] }

variable [DecidableEq Element]

/-- An element that goes into another feed leaves this one. -/
def withoutElement (slot : VideoSlot Element) (element : Element) : VideoSlot Element :=
  { slot with feed := slot.feed.map fun children ↦ children.filter (· ≠ element) }

def showElement (slot : VideoSlot Element) (element : Element) : VideoSlot Element :=
  { slot with feed := slot.feed.map fun _ ↦ [element] }

end VideoSlot

namespace VideoGrid

def visibleCount (g : VideoGrid Object Element) : ℕ := (g.slots.values.filter (·.hasVideo)).length

def centerAvailable (g : VideoGrid Object Element) : Bool :=
  ((g.slots.get center).map (·.hasVideo)).getD false

def updateLayout (g : VideoGrid Object Element) : VideoGrid Object Element :=
  let visibleCount := g.visibleCount
  let centerAvailable := g.centerAvailable
  let centerFocused :=
    if visibleCount ≤ 1 || !centerAvailable then false else g.centerFocused
  { g with
    centerFocused := centerFocused
    grid := g.grid.map fun _ ↦
      { singleCamera := visibleCount ≤ 1
        multiCamera := visibleCount > 1
        centerFocused := centerFocused && centerAvailable }
    container := g.container.map fun classes ↦
      { classes with
        singleCamera := visibleCount ≤ 1
        centerFocused := centerFocused && centerAvailable }
    focusButton := g.focusButton.map fun _ ↦
      ofChars (if centerFocused then "恢复三路布局" else "放大中间").toList }

def toggleCenterFocus (g : VideoGrid Object Element) : VideoGrid Object Element :=
  updateLayout { g with centerFocused := !g.centerFocused }

/-- The grid over a page, once it is set up. -/
def createVideoGrid (page : Page Element) (attached : Object → List Element) :
    VideoGrid Object Element :=
  updateLayout
    { slots := .ofList (page.slots.map fun slot ↦ (slot.camera.getD [], slot))
      tracks := .empty
      centerFocused := false
      grid := page.grid
      container := page.container
      focusButton := page.focusButton
      attached := attached
      received := 0 }

variable [DecidableEq Object]

/-- `track.detach()`. -/
def detach (g : VideoGrid Object Element) (track : Object) : VideoGrid Object Element :=
  { g with attached := Function.update g.attached track [] }

/-- `tracks.get(name)?.detach()`. -/
def detachTracked (g : VideoGrid Object Element) (name : JSString) : VideoGrid Object Element :=
  match g.tracks.get name with
  | some track => g.detach track
  | none => g

/-- The track is detached, and its slot's feed emptied and mark removed. -/
def dropVideo (g : VideoGrid Object Element) (name : JSString) (track : Object) :
    VideoGrid Object Element :=
  let g := g.detach track
  { g with slots := g.slots.mapWith fun n slot ↦
      if n = name then slot.clearFeed.setHasVideo false else slot }

def unsubscribe (g : VideoGrid Object Element) (track : Object) : VideoGrid Object Element :=
  match g.tracks.entries.find? fun entry ↦ entry.2 = track with
  | none => g
  | some (name, _) =>
      let g := g.dropVideo name track
      updateLayout { g with tracks := g.tracks.delete name }

def clear (g : VideoGrid Object Element) : VideoGrid Object Element :=
  let g := g.tracks.entries.foldl (fun g entry ↦ g.dropVideo entry.1 entry.2) g
  updateLayout { g with tracks := .empty, centerFocused := false }

variable [DecidableEq Element]

/-- `feed.replaceChildren(track.attach())` for the feed of the slot. -/
def showTrack (g : VideoGrid Object Element) (name : JSString)
    (track : CameraTrack Object Element) : VideoGrid Object Element :=
  { g with
    attached := Function.update g.attached track.object
      (g.attached track.object ++ [track.element])
    slots := g.slots.mapWith fun n slot ↦
      if n = name then slot.showElement track.element else slot.withoutElement track.element }

def subscribe (g : VideoGrid Object Element) (track : CameraTrack Object Element)
    (publication : Option TrackPublication) : VideoGrid Object Element :=
  if track.kind ≠ ofChars "video".toList then g
  else
    let name := cameraName track publication
    match g.slots.get name with
    | none => g.detach track.object
    | some slot =>
        let g := g.detachTracked name
        -- without a feed `attach()` is not called either
        let g := if slot.feed.isSome then g.showTrack name track else g
        let g := { g with
          slots := g.slots.mapWith fun n slot ↦ if n = name then slot.setHasVideo true else slot
          tracks := g.tracks.set name track.object }
        let g := g.updateLayout
        { g with received := g.received + 1 }

end VideoGrid

/-- What may happen to the grid.  The focus is toggled by a click on its button. -/
inductive GridEvent (Object Element : Type)
  | subscribe (track : CameraTrack Object Element) (publication : Option TrackPublication)
  | unsubscribe (track : Object)
  | clear
  | toggleCenterFocus

namespace VideoGrid

variable [DecidableEq Object] [DecidableEq Element]

def handle (g : VideoGrid Object Element) : GridEvent Object Element → VideoGrid Object Element
  | .subscribe track publication => g.subscribe track publication
  | .unsubscribe track => g.unsubscribe track
  | .clear => g.clear
  | .toggleCenterFocus => if g.focusButton.isSome then g.toggleCenterFocus else g

def handleAll (g : VideoGrid Object Element) (events : List (GridEvent Object Element)) :
    VideoGrid Object Element :=
  events.foldl handle g

end VideoGrid

/-! ## Consistency -/

/-- No slot of the page shows a video yet, and every slot has a feed. -/
def Page.Blank (page : Page Element) : Prop :=
  ∀ slot ∈ page.slots, slot.hasVideo = false ∧ slot.feed = some []

namespace VideoGrid

section Layout

variable (g : VideoGrid Object Element)

@[simp] theorem updateLayout_slots : g.updateLayout.slots = g.slots := rfl

@[simp] theorem updateLayout_tracks : g.updateLayout.tracks = g.tracks := rfl

@[simp] theorem updateLayout_attached : g.updateLayout.attached = g.attached := rfl

end Layout

/-- The slot of this name is marked as showing a track. -/
def Marked (g : VideoGrid Object Element) (name : JSString) : Prop :=
  ∃ slot, g.slots.get name = some slot ∧ slot.hasVideo = true

/-- The center is in focus only while it and another slot have a video. -/
def Focused (g : VideoGrid Object Element) : Prop :=
  g.centerFocused = true → g.Marked center ∧ ∃ name, name ≠ center ∧ g.Marked name

/-- The four views of the grid's state agree. -/
structure Consistent (g : VideoGrid Object Element) : Prop where
  slot_of_track : ∀ name t, g.tracks.get name = some t → ∃ slot, g.slots.get name = some slot
  hasVideo_iff : ∀ name slot, g.slots.get name = some slot →
    (slot.hasVideo = true ↔ ∃ t, g.tracks.get name = some t)
  feed_of_track : ∀ name slot t, g.slots.get name = some slot → g.tracks.get name = some t →
    ∃ element, slot.feed = some [element] ∧ (g.attached t).getLast? = some element
  feed_empty : ∀ name slot, g.slots.get name = some slot → g.tracks.get name = none →
    slot.feed = some []
  focused : g.Focused

theorem focused_updateLayout (g : VideoGrid Object Element) : g.updateLayout.Focused := by
  intro hfocused
  have hcount : ¬(g.visibleCount ≤ 1 ∨ g.centerAvailable = false) := by
    intro hclosed
    simp [updateLayout, hclosed] at hfocused
  obtain ⟨hmany, hcenter⟩ := not_or.mp hcount
  constructor
  · rw [Bool.not_eq_false, centerAvailable] at hcenter
    cases hslot : g.slots.get center with
    | none => simp [hslot] at hcenter
    | some slot => exact ⟨slot, hslot, by simpa [hslot] using hcenter⟩
  · obtain ⟨name, slot, hname, hslot, hvideo⟩ :=
      OrderedMap.exists_ne_of_one_lt (Nat.not_le.mp hmany) center
    exact ⟨name, hname, slot, hslot, hvideo⟩

/-- Every track sits in the slot of its camera, whose feed holds the track's latest element
alone, and every other slot is empty. -/
structure Placed (camera : Object → JSString) (owner : Element → Object)
    (g : VideoGrid Object Element) : Prop where
  shown : ∀ name t, g.tracks.get name = some t → camera t = name ∧ ∃ slot element,
    g.slots.get name = some slot ∧ slot.hasVideo = true ∧ slot.feed = some [element] ∧
      (g.attached t).getLast? = some element ∧ owner element = t
  blank : ∀ name slot, g.slots.get name = some slot → g.tracks.get name = none →
    slot.hasVideo = false ∧ slot.feed = some []

/-- No slot's track is `t`. -/
def Untracked (g : VideoGrid Object Element) (t : Object) : Prop :=
  ∀ name, g.tracks.get name ≠ some t

section Placed

variable {camera : Object → JSString} {owner : Element → Object} {g : VideoGrid Object Element}

theorem Placed.consistent (h : g.Placed camera owner) (hfocused : g.Focused) : g.Consistent where
  slot_of_track name t ht := by
    obtain ⟨-, slot, -, hslot, -⟩ := h.shown name t ht
    exact ⟨slot, hslot⟩
  hasVideo_iff name slot hslot := by
    cases ht : g.tracks.get name with
    | none => simp [(h.blank name slot hslot ht).1]
    | some t =>
        obtain ⟨-, slot', element, hslot', hvideo, -⟩ := h.shown name t ht
        obtain rfl := Option.some.inj (hslot.symm.trans hslot')
        simp [hvideo]
  feed_of_track name slot t hslot ht := by
    obtain ⟨-, slot', element, hslot', -, hfeed, hlast, -⟩ := h.shown name t ht
    obtain rfl := Option.some.inj (hslot.symm.trans hslot')
    exact ⟨element, hfeed, hlast⟩
  feed_empty name slot hslot ht := (h.blank name slot hslot ht).2
  focused := hfocused

theorem Placed.updateLayout (h : g.Placed camera owner) : g.updateLayout.Placed camera owner :=
  ⟨h.shown, h.blank⟩

theorem placed_createVideoGrid {page : Page Element} (hpage : page.Blank)
    (attached : Object → List Element) :
    (createVideoGrid page attached).Placed camera owner where
  shown name t ht := by cases ht
  blank name slot hslot _ := by
    obtain ⟨slot', hslot', heq⟩ := List.mem_map.mp (OrderedMap.mem_of_get_ofList hslot)
    obtain rfl := (Prod.mk.inj heq).2
    exact hpage slot' hslot'

/-- Every slot of the page has a feed. -/
theorem Placed.exists_feed (h : g.Placed camera owner) {name : JSString}
    {slot : VideoSlot Element} (hslot : g.slots.get name = some slot) : slot.feed.isSome := by
  cases ht : g.tracks.get name with
  | none => simp [(h.blank name slot hslot ht).2]
  | some t =>
      obtain ⟨-, slot', element, hslot', -, hfeed, -⟩ := h.shown name t ht
      obtain rfl := Option.some.inj (hslot.symm.trans hslot')
      simp [hfeed]

/-- A slot that loses its track is as it was without one. -/
theorem Placed.dropped (h : g.Placed camera owner) {name : JSString} {slot : VideoSlot Element}
    (hslot : g.slots.get name = some slot) :
    (slot.clearFeed.setHasVideo false).feed = some [] := by
  obtain ⟨children, hfeed⟩ := Option.isSome_iff_exists.mp (h.exists_feed hslot)
  simp [VideoSlot.setHasVideo, VideoSlot.clearFeed, hfeed]

variable [DecidableEq Object]

/-- Nothing is said of a track that no slot shows. -/
theorem Placed.detach (h : g.Placed camera owner) {track : Object} (htrack : g.Untracked track) :
    (g.detach track).Placed camera owner where
  shown name t ht := by
    have hne : t ≠ track := by
      rintro rfl
      exact htrack name ht
    obtain ⟨hcamera, slot, element, hslot, hvideo, hfeed, hlast, howner⟩ := h.shown name t ht
    refine ⟨hcamera, slot, element, hslot, hvideo, hfeed, ?_, howner⟩
    simpa only [VideoGrid.detach, Function.update_of_ne hne] using hlast
  blank := h.blank

theorem unsubscribe_of_untracked {t : Object} (h : g.Untracked t) : g.unsubscribe t = g := by
  have hfind : (g.tracks.entries.find? fun entry ↦ entry.2 = t) = none := by
    rw [List.find?_eq_none]
    intro entry hentry hkey
    obtain rfl : entry.2 = t := by simpa using hkey
    exact h entry.1 (OrderedMap.get_eq_some_iff.mpr hentry)
  rw [unsubscribe, hfind]

theorem Placed.unsubscribe (h : g.Placed camera owner) (track : Object) :
    (g.unsubscribe track).Placed camera owner := by
  unfold VideoGrid.unsubscribe
  split
  · exact h
  · rename_i name t hfind
    obtain rfl : t = track := by simpa using List.find?_some hfind
    have ht : g.tracks.get name = some t :=
      OrderedMap.get_eq_some_iff.mpr (List.mem_of_find?_eq_some hfind)
    apply Placed.updateLayout
    constructor
    · intro n t' ht'
      simp only [OrderedMap.get_delete] at ht'
      split_ifs at ht' with hn
      obtain ⟨hcamera, slot, element, hslot, hvideo, hfeed, hlast, howner⟩ := h.shown n t' ht'
      have hne : t' ≠ t := by
        rintro rfl
        exact hn (hcamera.symm.trans (h.shown name t' ht).1)
      refine ⟨hcamera, slot, element, ?_, hvideo, hfeed, ?_, howner⟩
      · simp [dropVideo, VideoGrid.detach, hslot, hn]
      · simpa only [dropVideo, VideoGrid.detach, Function.update_of_ne hne] using hlast
    · intro n slot hslot hn
      simp only [dropVideo, VideoGrid.detach, OrderedMap.get_mapWith,
        Option.map_eq_some_iff] at hslot
      obtain ⟨slot, hslot, rfl⟩ := hslot
      simp only [OrderedMap.get_delete] at hn
      split_ifs at hn ⊢ with hname
      · exact ⟨rfl, h.dropped hslot⟩
      · exact h.blank n slot hslot hn

theorem dropped_again (slot : VideoSlot Element) :
    (slot.clearFeed.setHasVideo false).clearFeed.setHasVideo false =
      slot.clearFeed.setHasVideo false := by
  simp [VideoSlot.setHasVideo, VideoSlot.clearFeed, Function.comp_def]

theorem get_foldl_dropVideo (entries : List (JSString × Object)) (g : VideoGrid Object Element)
    (n : JSString) :
    (entries.foldl (fun g entry ↦ g.dropVideo entry.1 entry.2) g).slots.get n =
      (g.slots.get n).map fun slot ↦
        if n ∈ entries.map Prod.fst then slot.clearFeed.setHasVideo false else slot := by
  induction entries generalizing g with
  | nil => simp
  | cons entry entries ih =>
      rw [List.foldl_cons, ih]
      simp only [dropVideo, VideoGrid.detach, OrderedMap.get_mapWith, Option.map_map,
        List.map_cons, List.mem_cons]
      congr 1
      funext slot
      rw [Function.comp_apply]
      by_cases hn : n = entry.1
      · simp only [hn, if_true, true_or, dropped_again, ite_self]
      · simp only [hn, if_false, false_or]

theorem Placed.clear (h : g.Placed camera owner) : g.clear.Placed camera owner := by
  apply Placed.updateLayout
  constructor
  · intro n t ht
    cases ht
  · intro n slot hslot _
    simp only [get_foldl_dropVideo, Option.map_eq_some_iff] at hslot
    obtain ⟨slot, hslot, rfl⟩ := hslot
    split_ifs with hmem
    · exact ⟨rfl, h.dropped hslot⟩
    · apply h.blank n slot hslot
      cases ht : g.tracks.get n with
      | none => rfl
      | some t => exact absurd (List.mem_map_of_mem (OrderedMap.get_eq_some_iff.mp ht)) hmem

@[simp] theorem detachTracked_slots (g : VideoGrid Object Element) (name : JSString) :
    (g.detachTracked name).slots = g.slots := by
  unfold detachTracked
  split <;> rfl

@[simp] theorem detachTracked_tracks (g : VideoGrid Object Element) (name : JSString) :
    (g.detachTracked name).tracks = g.tracks := by
  unfold detachTracked
  split <;> rfl

theorem detachTracked_attached {t : Object} {name : JSString} (h : g.tracks.get name ≠ some t) :
    (g.detachTracked name).attached t = g.attached t := by
  unfold detachTracked
  split
  · rename_i track htrack
    have hne : t ≠ track := by
      rintro rfl
      exact h htrack
    simp [VideoGrid.detach, hne]
  · rfl

variable [DecidableEq Element]

/-- A track with a slot for its camera replaces the slot's track, and no other track changes. -/
theorem subscribe_spec {track : CameraTrack Object Element}
    {publication : Option TrackPublication} {slot : VideoSlot Element}
    (hkind : track.kind = ofChars "video".toList)
    (hslot : g.slots.get (cameraName track publication) = some slot) (hfeed : slot.feed.isSome) :
    let name := cameraName track publication
    let g' := g.subscribe track publication
    (∀ n, g'.tracks.get n = if n = name then some track.object else g.tracks.get n) ∧
      (∀ n, g'.slots.get n = (g.slots.get n).map fun slot ↦
        if n = name then (slot.showElement track.element).setHasVideo true
        else slot.withoutElement track.element) ∧
      (∀ t, t ≠ track.object → g.tracks.get name ≠ some t → g'.attached t = g.attached t) ∧
      (g'.attached track.object).getLast? = some track.element := by
  intro name g'
  simp only [g', subscribe, hkind, ne_eq, not_true_eq_false, if_false, hslot, hfeed, if_true]
  refine ⟨fun n ↦ ?_, fun n ↦ ?_, fun t ht hne ↦ ?_, ?_⟩
  · simp [showTrack, name]
  · simp only [updateLayout_slots, showTrack, detachTracked_slots, OrderedMap.get_mapWith,
      Option.map_map]
    congr 1
    funext slot
    rw [Function.comp_apply]
    split_ifs <;> rfl
  · simp only [updateLayout_attached, showTrack, Function.update_of_ne ht]
    exact detachTracked_attached hne
  · simp [showTrack]

/-- Subscribing either leaves the map of tracks alone or sets the name of a video track. -/
theorem subscribe_tracks (g : VideoGrid Object Element) (track : CameraTrack Object Element)
    (publication : Option TrackPublication) :
    (g.subscribe track publication).tracks = g.tracks ∨
      track.kind = ofChars "video".toList ∧ (g.subscribe track publication).tracks =
        g.tracks.set (cameraName track publication) track.object := by
  unfold subscribe
  split
  · exact .inl rfl
  · rename_i hkind
    dsimp only
    split
    · exact .inl rfl
    · right
      refine ⟨not_not.mp hkind, ?_⟩
      dsimp only [updateLayout_tracks]
      split
      · simp only [showTrack, detachTracked_tracks]
      · rw [detachTracked_tracks]

theorem Focused.subscribe (h : g.Focused) (track : CameraTrack Object Element)
    (publication : Option TrackPublication) : (g.subscribe track publication).Focused := by
  unfold VideoGrid.subscribe
  split
  · exact h
  · dsimp only
    split
    · exact h
    · exact focused_updateLayout _

theorem Placed.subscribe (h : g.Placed camera owner) {track : CameraTrack Object Element}
    {publication : Option TrackPublication}
    (htrack : track.kind = ofChars "video".toList →
      cameraName track publication = camera track.object ∧ owner track.element = track.object) :
    (g.subscribe track publication).Placed camera owner := by
  by_cases hkind : track.kind = ofChars "video".toList
  · obtain ⟨hname, howner⟩ := htrack hkind
    cases hslot : g.slots.get (cameraName track publication) with
    | none =>
        simp only [VideoGrid.subscribe, hkind, ne_eq, not_true_eq_false, if_false, hslot]
        apply h.detach
        intro name ht
        obtain ⟨hcamera, slot, -, hslot', -⟩ := h.shown name _ ht
        rw [hname, hcamera, hslot'] at hslot
        cases hslot
    | some slot =>
        obtain ⟨htracks, hslots, hattached, hlast⟩ :=
          subscribe_spec hkind hslot (h.exists_feed hslot)
        constructor
        · intro n t ht
          rw [htracks] at ht
          split_ifs at ht with hn
          · obtain rfl := Option.some.inj ht
            refine ⟨hname.symm.trans hn.symm, (slot.showElement track.element).setHasVideo true,
              track.element, ?_, rfl, ?_, hlast, howner⟩
            · rw [hslots, hn, hslot, Option.map_some, if_pos rfl]
            · obtain ⟨children, hfeed⟩ := Option.isSome_iff_exists.mp (h.exists_feed hslot)
              simp [VideoSlot.setHasVideo, VideoSlot.showElement, hfeed]
          · obtain ⟨hcamera, slot', element, hslot', hvideo, hfeed, hlast', howner'⟩ :=
              h.shown n t ht
            have hother : ∀ t', camera t' = cameraName track publication → t ≠ t' := by
              rintro t' ht' rfl
              exact hn (hcamera.symm.trans ht')
            have hne : t ≠ track.object := hother track.object hname.symm
            have helement : element ≠ track.element := by
              rintro rfl
              exact hne (howner'.symm.trans howner)
            refine ⟨hcamera, slot'.withoutElement track.element, element, ?_, hvideo, ?_, ?_,
              howner'⟩
            · rw [hslots, hslot', Option.map_some, if_neg hn]
            · simp [VideoSlot.withoutElement, hfeed, helement]
            · rw [hattached t hne fun ht' ↦ hother t (h.shown _ t ht').1 rfl]
              exact hlast'
        · intro n slot' hslot' ht
          rw [htracks] at ht
          split_ifs at ht with hn
          rw [hslots, Option.map_eq_some_iff] at hslot'
          obtain ⟨slot', hslot', rfl⟩ := hslot'
          obtain ⟨hvideo, hfeed⟩ := h.blank n slot' hslot' ht
          rw [if_neg hn]
          exact ⟨hvideo, by simp [VideoSlot.withoutElement, hfeed]⟩
  · simpa only [VideoGrid.subscribe, ne_eq, hkind, not_false_eq_true, if_true] using h

end Placed

end VideoGrid

/-! ## Every sequence of events -/

/-- A video track is subscribed under the name of its camera, and its `attach()` returns elements
of its own. -/
def GridEvent.Under (camera : Object → JSString) (owner : Element → Object) :
    GridEvent Object Element → Prop
  | .subscribe track publication => track.kind = ofChars "video".toList →
      cameraName track publication = camera track.object ∧ owner track.element = track.object
  | _ => True

/-- The event subscribes this track's video. -/
def GridEvent.Subscribes (t : Object) : GridEvent Object Element → Prop
  | .subscribe track _ => track.kind = ofChars "video".toList ∧ track.object = t
  | _ => False

/-- Another video track was subscribed under the name of the track's camera, and the track
itself was not subscribed again since. -/
def Replaced (camera : Object → JSString) (t : Object)
    (events : List (GridEvent Object Element)) : Prop :=
  ∃ earlier track publication later, events = earlier ++ .subscribe track publication :: later ∧
    track.kind = ofChars "video".toList ∧ track.object ≠ t ∧
      cameraName track publication = camera t ∧ ∀ event ∈ later, ¬event.Subscribes t

namespace VideoGrid

variable [DecidableEq Object] [DecidableEq Element] {camera : Object → JSString}
  {owner : Element → Object} {g : VideoGrid Object Element}

theorem Focused.handle (h : g.Focused) (event : GridEvent Object Element) :
    (g.handle event).Focused := by
  cases event with
  | subscribe track publication => exact h.subscribe track publication
  | unsubscribe track =>
      simp only [VideoGrid.handle, VideoGrid.unsubscribe]
      split
      · exact h
      · exact focused_updateLayout _
  | clear => exact focused_updateLayout _
  | toggleCenterFocus =>
      simp only [VideoGrid.handle]
      split
      · exact focused_updateLayout _
      · exact h

theorem Placed.handle (h : g.Placed camera owner) {event : GridEvent Object Element}
    (hevent : event.Under camera owner) : (g.handle event).Placed camera owner := by
  cases event with
  | subscribe track publication => exact h.subscribe hevent
  | unsubscribe track => exact h.unsubscribe track
  | clear => exact h.clear
  | toggleCenterFocus =>
      simp only [VideoGrid.handle]
      split
      · exact ⟨h.shown, h.blank⟩
      · exact h

theorem Placed.handleAll (h : g.Placed camera owner) {events : List (GridEvent Object Element)}
    (hevents : ∀ event ∈ events, event.Under camera owner) :
    (g.handleAll events).Placed camera owner := by
  induction events generalizing g with
  | nil => exact h
  | cons event events ih =>
      obtain ⟨hevent, hevents⟩ := List.forall_mem_cons.mp hevents
      exact ih (h.handle hevent) hevents

theorem Focused.handleAll (h : g.Focused) (events : List (GridEvent Object Element)) :
    (g.handleAll events).Focused := by
  induction events generalizing g with
  | nil => exact h
  | cons event events ih => exact ih (h.handle event)

/-- Only a subscription brings a track in. -/
theorem Untracked.handle {t : Object} (h : g.Untracked t) {event : GridEvent Object Element}
    (hevent : ¬event.Subscribes t) : (g.handle event).Untracked t := by
  intro name
  cases event with
  | subscribe track publication =>
      rcases g.subscribe_tracks track publication with hsame | ⟨hkind, hset⟩
      · rw [VideoGrid.handle, hsame]
        exact h name
      · rw [VideoGrid.handle, hset, OrderedMap.get_set]
        split_ifs with hname
        · intro heq
          exact hevent ⟨hkind, Option.some.inj heq⟩
        · exact h name
  | unsubscribe track =>
      simp only [VideoGrid.handle, VideoGrid.unsubscribe]
      split
      · exact h name
      · simp only [updateLayout_tracks, OrderedMap.get_delete]
        split_ifs
        · simp
        · exact h name
  | clear => simp [VideoGrid.handle, VideoGrid.clear]
  | toggleCenterFocus =>
      simp only [VideoGrid.handle]
      split
      · exact h name
      · exact h name

theorem Untracked.handleAll {t : Object} (h : g.Untracked t)
    {events : List (GridEvent Object Element)} (hevents : ∀ event ∈ events, ¬event.Subscribes t) :
    (g.handleAll events).Untracked t := by
  induction events generalizing g with
  | nil => exact h
  | cons event events ih =>
      obtain ⟨hevent, hevents⟩ := List.forall_mem_cons.mp hevents
      exact ih (h.handle hevent) hevents

/-- A track that is replaced has left the grid, as no slot but its camera's ever had it. -/
theorem Placed.untracked (h : g.Placed camera owner) {t : Object}
    {track : CameraTrack Object Element} {publication : Option TrackPublication}
    (hkind : track.kind = ofChars "video".toList) (hobject : track.object ≠ t)
    (hname : cameraName track publication = camera t) :
    (g.subscribe track publication).Untracked t := by
  intro n ht
  cases hslot : g.slots.get (cameraName track publication) with
  | none =>
      simp only [VideoGrid.subscribe, hkind, ne_eq, not_true_eq_false, if_false, hslot] at ht
      obtain ⟨hcamera, slot, -, hslot', -⟩ := h.shown n t ht
      rw [hname, hcamera, hslot'] at hslot
      cases hslot
  | some slot =>
      rw [(subscribe_spec hkind hslot (h.exists_feed hslot)).1] at ht
      split_ifs at ht with hn
      · exact hobject (Option.some.inj ht)
      · exact hn ((h.shown n t ht).1.symm.trans hname.symm)

/-- Whatever happens to the grid, its four views of the state agree, and a track that was replaced
in its slot may be unsubscribed late without any effect. -/
theorem grid_consistent {page : Page Element} (hpage : page.Blank)
    (attached : Object → List Element) {events : List (GridEvent Object Element)}
    (hevents : ∀ event ∈ events, event.Under camera owner) :
    ((createVideoGrid page attached).handleAll events).Consistent ∧
      ∀ t, Replaced camera t events →
        ((createVideoGrid page attached).handleAll events).unsubscribe t =
          (createVideoGrid page attached).handleAll events := by
  have hstart : (createVideoGrid page attached).Placed camera owner :=
    placed_createVideoGrid hpage attached
  constructor
  · have hfocused : (createVideoGrid page attached).Focused := focused_updateLayout _
    exact (hstart.handleAll hevents).consistent (hfocused.handleAll events)
  · rintro t ⟨earlier, track, publication, later, rfl, hkind, hobject, hname, hlater⟩
    apply unsubscribe_of_untracked
    have hearlier := hstart.handleAll fun event hevent ↦
      hevents event (List.mem_append_left _ hevent)
    have hreplaced := hearlier.untracked hkind hobject hname
    rw [VideoGrid.handleAll, List.foldl_append, List.foldl_cons]
    exact hreplaced.handleAll hlater

/-! ### A page with three cameras -/

section Sample

def consolePage : Page ℕ where
  slots := ["left", "center", "right"].map fun name ↦
    { camera := some (ofChars name.toList), hasVideo := false, feed := some [] }
  grid := some ⟨false, false, false⟩
  container := some ⟨false, false, false⟩
  focusButton := some []

def consoleTrack (object : ℕ) (name : String) (element : ℕ) : CameraTrack ℕ ℕ where
  object := object
  kind := ofChars "video".toList
  name := some (ofChars name.toList)
  element := element

/-- The center's track is replaced while the center is in focus. -/
def consoleEvents : List (GridEvent ℕ ℕ) :=
  [.subscribe (consoleTrack 0 "camera-center" 0) none,
    .subscribe (consoleTrack 1 "camera-left" 10) none, .toggleCenterFocus,
    .subscribe (consoleTrack 2 "camera-center" 20) none]

theorem grid_consistent_sample :
    let g : VideoGrid ℕ ℕ := (createVideoGrid consolePage fun _ ↦ []).handleAll consoleEvents
    g.Consistent ∧ g.centerFocused = true ∧ g.unsubscribe 0 = g := by
  let camera : ℕ → JSString := fun t ↦ ofChars (if t = 1 then "left" else "center").toList
  let owner : ℕ → ℕ := fun element ↦ element / 10
  have hpage : consolePage.Blank := by
    unfold Page.Blank
    decide
  have hevents : ∀ event ∈ consoleEvents, event.Under camera owner := by
    simp only [consoleEvents, List.forall_mem_cons]
    exact ⟨fun _ ↦ by decide, fun _ ↦ by decide, trivial, fun _ ↦ by decide, by simp⟩
  obtain ⟨hconsistent, hlate⟩ := grid_consistent hpage (fun _ ↦ []) hevents
  refine ⟨hconsistent, by decide +kernel, hlate 0 ?_⟩
  refine ⟨consoleEvents.take 3, consoleTrack 2 "camera-center" 20, none, [], rfl, rfl, ?_, ?_, ?_⟩
  · decide
  · decide
  · simp

end Sample

end VideoGrid

end RemoteInfra.Console
