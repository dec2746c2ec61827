import LoweringAudit.Files.Path
import LoweringAudit.Files.Standard
/-!
What is written to a path is read from it. A path is written where its last name stands beneath the
directory that the other names lead to; on the way there only directories are passed, and writing a
file changes none of them. Main statement: after a successful write, the path holds the octets
written, or else it was that of a device and the tree is as before.
-/
namespace LoweringAudit

namespace FileTree

variable {t t' : FileTree} {e : Entry} {here above loc : Location} {names : List String}
  {path name : String} {octets : List UInt8}

theorem get?_put_self (t : FileTree) (e : Entry) (h : loc ≠ []) :
    (t.put loc e).get? loc = some e := by
  simp [get?, put, h]

theorem isSome_get?_put {other : Location} (h : (t.get? other).isSome = true) :
    ((t.put loc e).get? other).isSome = true := by
  by_cases hsame : other = loc
  · subst hsame
    by_cases hroot : other = []
    · simp [get?, hroot]
    · simp [get?_put_self t e hroot]
  · rw [get?_put_of_ne t e hsame, h]

/-- A walk is one through its first names and then through the others. -/
theorem walk_append (t : FileTree) (here : Location) (first others : List String) :
    t.walk here (first ++ others) = (t.walk here first).bind (t.walk · others) := by
  induction first generalizing here with
  | nil => rfl
  | cons name first ih =>
    simp only [List.cons_append, walk]
    split
    · rfl
    · split
      · exact ih here
      split
      · exact ih here.dropLast
      split
      · rfl
      split
      · exact ih (here ++ [name])
      · rfl
    · rfl

/-- A walk passes directories only, so it goes the same way when something is put where there was
none. -/
theorem walk_put (hloc : t.get? loc ≠ some .directory) (e : Entry)
    (h : t.walk here names = .ok above) : (t.put loc e).walk here names = .ok above := by
  induction names generalizing here with
  | nil => exact h
  | cons name names ih =>
    rw [walk] at h
    split at h
    · cases h
    · next hdirectory =>
      have hne : here ≠ loc := by
        rintro rfl
        exact hloc hdirectory
      -- From here on both walks take the same turns; only the last looks at the tree again.
      rw [walk, get?_put_of_ne t e hne, hdirectory]
      simp only
      split at h
      · next hdot => rw [if_pos hdot]; exact ih h
      · next hdot =>
        rw [if_neg hdot]
        split at h
        · next hup => rw [if_pos hup]; exact ih h
        · next hup =>
          rw [if_neg hup]
          split at h
          · cases h
          · next hshort =>
            rw [if_neg hshort]
            split at h
            · next hsome => rw [if_pos (isSome_get?_put hsome)]; exact ih h
            · cases h
    · cases h

/-- Where a path is written: under its last name, beneath the directory that the other names lead
to. -/
structure Target (t : FileTree) (path : String) (above : Location) (name : String) : Prop where
  sound : pathFault? path = none
  last : (bareNames path).getLast? = some name
  walked : t.walk (t.start path) (bareNames path).dropLast = .ok above
  directory : t.get? above = some .directory
  proper : ¬ (name = "." ∨ name = ".." ∨ endsAtDirectory path = true)
  short : ¬ maxName < name.utf8ByteSize

/-- What a successful write does: it puts a file in place of nothing or of a file, or nothing at all
where there is a device. -/
theorem write_eq_ok (h : t.write path octets = .ok t') :
    ∃ above name, Target t path above name ∧
      (t.get? (above ++ [name]) ≠ some .directory ∧
          t' = t.put (above ++ [name]) (.file octets) ∨
        (∃ d, t.get? (above ++ [name]) = some (.device d)) ∧ t' = t) := by
  unfold write at h
  split at h
  · cases h
  next hsound =>
  split at h
  · cases h
  next name hlast =>
  split at h
  · cases h
  next above hwalked =>
  split at h
  · cases h
  · next hdirectory =>
    split at h
    · cases h
    next hproper =>
    split at h
    · cases h
    next hshort =>
    refine ⟨above, name, ⟨hsound, hlast, hwalked, hdirectory, hproper, hshort⟩, ?_⟩
    split at h
    · cases h
    · cases h
    · next hdevice =>
      split at h
      · cases h; exact .inr ⟨⟨_, hdevice⟩, rfl⟩
      · cases h
    · next d _ _ hdevice => cases h; exact .inr ⟨⟨d, hdevice⟩, rfl⟩
    · next hnone _ _ _ => cases h; exact .inl ⟨hnone, rfl⟩
  · cases h

/-- What stands where a path is written is what the path names. -/
theorem Target.resolve (h : Target t path above name)
    (hsome : (t.get? (above ++ [name])).isSome = true) :
    t.resolve path = .ok (above ++ [name]) := by
  obtain ⟨hdot, hup, hend⟩ : name ≠ "." ∧ name ≠ ".." ∧ endsAtDirectory path = false := by
    simpa using h.proper
  have hnames : FileTree.names path = (bareNames path).dropLast ++ [name] := by
    obtain ⟨before, hbare⟩ := List.getLast?_eq_some_iff.1 h.last
    simp [FileTree.names, hend, hbare]
  rw [FileTree.resolve, h.sound]
  simp only
  rw [hnames, walk_append, h.walked]
  simp [Except.bind, walk, h.directory, hdot, hup, h.short, hsome]

theorem Target.put (h : Target t path above name)
    (hloc : t.get? (above ++ [name]) ≠ some .directory) (e : Entry) :
    Target (t.put (above ++ [name]) e) path above name where
  sound := h.sound
  last := h.last
  walked := walk_put hloc e h.walked
  directory := by
    rw [get?_put_of_ne t e (by simp), h.directory]
  proper := h.proper
  short := h.short

/-- A path that was written is that of a file with the octets written, or of a device. -/
theorem read_of_write (h : t.write path octets = .ok t') :
    t'.read path = .ok octets ∧ t'.isFile path = true ∨
      (∃ loc d, t.resolve path = .ok loc ∧ t.get? loc = some (.device d)) ∧ t' = t := by
  obtain ⟨above, name, htarget, ⟨hloc, rfl⟩ | ⟨⟨d, hdevice⟩, rfl⟩⟩ := write_eq_ok h
  · have hget : (t.put (above ++ [name]) (.file octets)).get? (above ++ [name]) =
        some (.file octets) := get?_put_self t _ (by simp)
    have hresolve := (htarget.put hloc (.file octets)).resolve (by rw [hget]; rfl)
    left
    simp [read, isFile, hresolve, hget]
  · have hresolve := htarget.resolve (by rw [hdevice]; rfl)
    exact .inr ⟨⟨_, d, hresolve, hdevice⟩, rfl⟩

end FileTree

/-- A step that leads somewhere leaves a proper ancestor. -/
theorem Path.properAncestors_ne_nil {first : Segment} {others : List Segment}
    (h : first ≠ [] ∨ ∃ s ∈ others, leadsNowhere s = false) :
    properAncestors first others ≠ [] := by
  induction others with
  | nil =>
    have hfirst : first ≠ [] := by simpa using h
    simp [properAncestors, hfirst]
  | cons s others ih =>
    unfold properAncestors
    split
    · next hnowhere =>
      apply ih
      refine h.imp_right ?_
      rintro ⟨a, hmem, ha⟩
      rcases List.mem_cons.1 hmem with rfl | hmem
      · rw [hnowhere] at ha
        cases ha
      · exact ⟨a, hmem, ha⟩
    · exact List.cons_ne_nil _ _

theorem Path.exists_parent? {p : String} {s : Segment} (h : s ∈ p.toList.splitOn '/')
    (hs : leadsNowhere s = false) : ∃ dir, parent? p = some dir := by
  obtain ⟨first, others, hsplit⟩ :=
    List.exists_cons_of_ne_nil (List.splitOn_ne_nil '/' p.toList)
  have hproper : properAncestors first others.reverse ≠ [] := by
    apply properAncestors_ne_nil
    rw [hsplit] at h
    rcases List.mem_cons.1 h with rfl | h
    · refine .inl ?_
      rintro rfl
      exact absurd hs (by decide)
    · exact .inr ⟨s, List.mem_reverse.2 h, hs⟩
  obtain ⟨dir, more, hmore⟩ := List.exists_cons_of_ne_nil hproper
  refine ⟨dir, ?_⟩
  simp [parent?, ancestors, hsplit, hmore]

/-- A path that can be written has a last name, and so a parent. -/
theorem FileTree.Target.exists_parent? {t : FileTree} {path name : String} {above : Location}
    (h : Target t path above name) : ∃ dir, Path.parent? path = some dir := by
  have hmem : name ∈ bareNames path := List.mem_of_getLast? h.last
  obtain ⟨s, hs, rfl⟩ := List.mem_map.1 hmem
  obtain ⟨hsplit, hne⟩ := List.mem_filter.1 hs
  have hdot : s ≠ ['.'] := by
    rintro rfl
    exact h.proper (.inl rfl)
  apply Path.exists_parent? hsplit
  simpa [Path.leadsNowhere, hdot] using hne

end LoweringAudit
