-- SUMMARY: Paths that never turn back: their directories are all made, or none of them.
import KeyBridge.Proofs.Guards

/-!
# Straight paths

On a path that does not turn back, the first directory that is made is empty, so that everything
after it can be made too. Hence directories are made along the whole path or not at all
(`opens_or_leaves`), and which of the two follows from what is on the way before anything is made
(`Clear`).
-/

namespace KeyBridge

/-- A path on which no component leads back, with a name at its end, slashes apart. -/
structure Path.IsStraight (path : String) : Prop where
  forth : ".." ∉ Path.components path
  name : (Files.withoutSlashes (Path.components path)).getLast? ≠ some "."

namespace Files

/-! ## Ways on a path -/

/-- The ways to the ends of beginnings of a path, outermost first. -/
def stations (way : List String) : List (List String) :=
  ((List.range way.length).map fun n => way.take (n + 1)).filter fun cs =>
    !(cs.getLast?.any Path.stays)

theorem beginnings_append (before rest : List String) :
    (List.range before.length).map (fun n => (before ++ rest).take (n + 1))
      = (List.range before.length).map fun n => before.take (n + 1) :=
  List.map_congr_left fun _ hn => List.take_append_of_le_length (List.mem_range.1 hn)

theorem stations_concat (before : List String) (c : String) : stations (before ++ [c])
    = stations before ++ if Path.stays c then [] else [before ++ [c]] := by
  have hlast : (before ++ [c]).take (before.length + 1) = before ++ [c] :=
    List.take_of_length_le (by simp)
  rw [stations, List.length_append, List.length_singleton, List.range_succ, List.map_append,
    List.filter_append, beginnings_append, List.map_singleton, hlast, stations]
  cases hc : Path.stays c <;> simp [hc]

theorem ancestors_eq {before slashes : List String} {c : String} (hc : Path.stays c = false)
    (hslashes : slashes.all Path.stays = true) :
    ancestors (before ++ [c] ++ slashes) = stations before := by
  have hcore : withoutStays (before ++ [c] ++ slashes) = before ++ [c] := by
    have hall : ∀ s ∈ slashes.reverse, Path.stays s = true := by
      simpa using List.all_eq_true.1 hslashes
    rw [withoutStays, List.reverse_append, List.dropWhile_append_of_pos hall]
    simp [hc]
  rw [ancestors, hcore, List.length_append, List.length_singleton, Nat.add_sub_cancel,
    beginnings_append, stations]

/-- A path that is straight ends in a name, slashes apart, if nothing is there. -/
theorem exists_name {f : Files} {path : String} (hstraight : Path.IsStraight path)
    (habsent : f.Absent (Path.components path)) : ∃ before c slashes,
      Path.components path = before ++ [c] ++ slashes
        ∧ withoutSlashes (Path.components path) = before ++ [c]
        ∧ slashes.all Path.stays = true ∧ Path.leadsOn c = true ∧ ".." ∉ before
        ∧ (before ++ [c]).all Path.isReadable = true := by
  obtain ⟨slashes, hcomponents, hslashes⟩ := exists_slashes (Path.components path)
  have hdirectory := habsent.locateDirectory
  rcases List.eq_nil_or_concat (withoutSlashes (Path.components path)) with
    hnil | ⟨before, c, hcore⟩
  · rw [← locateDirectory_withoutSlashes, hnil] at hdirectory
    cases hdirectory
  rw [List.concat_eq_append] at hcore
  rw [hcore] at hcomponents
  have hup : ".." ∉ before ∧ c ≠ ".." := by
    have hforth := hcomponents ▸ hstraight.forth
    simp only [List.mem_append, List.mem_singleton, not_or] at hforth
    exact ⟨hforth.1.1, Ne.symm hforth.1.2⟩
  have hstays : Path.stays c = false := by
    have hdot : c ≠ "." := by
      have hname := hstraight.name
      rw [hcore, List.getLast?_concat] at hname
      simpa using hname
    have hempty : c ≠ "" := by
      rintro rfl
      have hhead := List.head?_dropWhile_not (· = "") (Path.components path).reverse
      have hreverse := congrArg List.reverse hcore
      rw [withoutSlashes, List.reverse_reverse] at hreverse
      rw [hreverse] at hhead
      simp at hhead
    simp [Path.stays, hdot, hempty]
  refine ⟨before, c, slashes, hcomponents, hcore, hslashes, by simp [Path.leadsOn, hstays, hup.2],
    hup.1, ?_⟩
  by_contra hreadable
  have hunreadable : (Path.components path).all Path.isReadable = false := by
    rw [hcomponents, List.all_append, Bool.eq_false_iff.2 hreadable, Bool.false_and]
  rw [locateDirectory, locate, List.all_append, hunreadable, Bool.false_and] at hdirectory
  cases hdirectory

/-! ## Making directories on the way -/

/-- On the way there is a directory, or nothing. -/
def Passable (f : Files) (way : List String) : Prop :=
  (∃ l, f.locateDirectory way = .ok l) ∨ f.Absent way

/-- Everywhere on the way to a directory, itself included, there is a directory or nothing. -/
def Clear (f : Files) (directory : String) : Prop :=
  ∀ way ∈ ancestors (Path.components directory) ++ [withoutSlashes (Path.components directory)],
    f.Passable way

/-- The directory at the end of a way was there and nothing is changed, or it is new and empty. -/
inductive Advanced (f : Files) : Files → List String → Prop
  | found {way : List String} {l : Location} (hl : f.locateDirectory way = .ok l) : Advanced f f way
  | made {made : Files} {way : List String} {l : Location}
      (hbefore : f.locateDirectory way = .error .notFound)
      (hl : made.locateDirectory way = .ok l) (hbare : made.Bare l) : Advanced f made way

section

variable {f f' : Files} {before p : List String} {c : String}

theorem Advanced.step (hrooted : f.Rooted) (h : f.Advanced f' before) (hc : Path.leadsOn c = true)
    (hreadable : Path.isReadable c = true) (hp : withoutSlashes p = before ++ [c]) :
    (∃ f'', f'.Paved [p] f'' ∧ f.Advanced f'' p ∧ f.Passable (before ++ [c]))
      ∨ ∃ error, f' = f ∧ f.Obstructed p error ∧ ¬ f.Passable (before ++ [c]) := by
  have hdirectory (f : Files) : f.locateDirectory p = f.locateDirectory (before ++ [c]) := by
    rw [← hp, locateDirectory_withoutSlashes]
  have hlocate {f : Files} {l : Location} (hl : f.locateDirectory before = .ok l) :
      f.locate (before ++ [c]) = .ok (l ++ [c]) := by
    rw [locate_concat hc hreadable, hl]
    rfl
  cases h with
  | @found _ l hl =>
    rcases hentry : f.get? (l ++ [c]) with _ | e
    · have habsent : f.Absent (before ++ [c]) := .inr ⟨_, hlocate hl, hentry⟩
      have hway : f.locate (withoutSlashes p) = .ok (l ++ [c]) := hp ▸ hlocate hl
      refine .inl ⟨_, .made hway hentry .done, ?_, .inr habsent⟩
      exact .made ((hdirectory f).trans habsent.locateDirectory)
        (locateDirectory_put hway hentry _) ((hrooted.bare hentry).put_directory _)
    · rcases hthere : f.locateDirectory p with error | l'
      · refine .inr ⟨_, rfl, .entry (hp ▸ hlocate hl) hentry hthere, ?_⟩
        rintro (⟨l', hl'⟩ | herror | ⟨l', hl', hnone⟩)
        · exact nomatch hthere.symm.trans ((hdirectory f).trans hl')
        · exact nomatch (hlocate hl).symm.trans herror
        · obtain rfl : l ++ [c] = l' := Except.ok.inj ((hlocate hl).symm.trans hl')
          exact nomatch hentry.symm.trans hnone
      · exact .inl ⟨f, .found hthere .done, .found hthere,
          .inl ⟨l', (hdirectory f).symm.trans hthere⟩⟩
  | @made _ _ l hbefore hl hbare =>
    -- nothing is in the way in a new directory
    have hnone : f'.get? (l ++ [c]) = none := hbare _ (List.prefix_append l [c]) (by simp)
    have hway : f'.locate (withoutSlashes p) = .ok (l ++ [c]) := hp ▸ hlocate hl
    have habsent : f.Absent (before ++ [c]) :=
      .inl (locate_append_of_error hbefore (List.cons_ne_nil _ _) (by simp [hreadable]))
    refine .inl ⟨_, .made hway hnone .done, ?_, .inr habsent⟩
    exact .made ((hdirectory f).trans habsent.locateDirectory) (locateDirectory_put hway hnone _)
      ((hbare.enter c).put_directory _)

theorem Advanced.congr {way way' : List String} (h : f.Advanced f' way)
    (hway : ∀ f : Files, f.locateDirectory way = f.locateDirectory way') : f.Advanced f' way' := by
  cases h with
  | found hl => exact .found ((hway f).symm.trans hl)
  | made hbefore hl hbare =>
    exact .made ((hway f).symm.trans hbefore) ((hway f').symm.trans hl) hbare

theorem withoutSlashes_concat (hc : Path.leadsOn c = true) :
    withoutSlashes (before ++ [c]) = before ++ [c] := by
  have hempty : c ≠ "" := by
    rintro rfl
    cases hc
  simp [withoutSlashes, hempty]

/-- Along the stations of a way, directories are made up to its end, or the first that is neither a
directory nor free stops them before anything is made. -/
theorem advance (hrooted : f.Rooted) (way : List String) (hup : ".." ∉ way)
    (hreadable : way.all Path.isReadable = true) :
    (∃ f', f.Paved (stations way) f' ∧ f.Advanced f' way ∧ ∀ p ∈ stations way, f.Passable p)
      ∨ ∃ before p after error, stations way = before ++ p :: after ∧ f.Paved before f
        ∧ f.Obstructed p error ∧ ¬ f.Passable p := by
  induction way using List.reverseRecOn with
  | nil => exact .inl ⟨f, .done, .found (l := []) rfl, nofun⟩
  | append_singleton way c ih =>
    obtain ⟨hup, hc⟩ : ".." ∉ way ∧ c ≠ ".." := by
      simpa [not_or, eq_comm] using hup
    obtain ⟨hreadable, hcreadable⟩ : way.all Path.isReadable = true ∧ Path.isReadable c = true := by
      simpa using hreadable
    rcases ih hup hreadable with
      ⟨f', hpaved, hadvanced, hpassable⟩ | ⟨before, p, after, error, hway, hpaved, hstop⟩
    · by_cases hstays : Path.stays c = true
      · rw [stations_concat, if_pos hstays, List.append_nil]
        refine .inl ⟨f', hpaved, hadvanced.congr fun f => ?_, hpassable⟩
        exact (locateDirectory_append_stays (by simp [hstays])).symm
      have hleads : Path.leadsOn c = true := by simp [Path.leadsOn, hstays, hc]
      rw [stations_concat, if_neg hstays]
      rcases hadvanced.step hrooted hleads hcreadable (withoutSlashes_concat hleads) with
        ⟨f'', hstep, hadvanced', hpassable'⟩ | ⟨error, rfl, hobstructed, hstop⟩
      · refine .inl ⟨f'', hpaved.append hstep, hadvanced', fun p hp => ?_⟩
        rcases List.mem_append.1 hp with hp | hp
        · exact hpassable p hp
        · exact List.mem_singleton.1 hp ▸ hpassable'
      · exact .inr ⟨_, _, [], error, rfl, hpaved, hobstructed, hstop⟩
    · refine .inr ⟨before, p, after ++ if Path.stays c then [] else [way ++ [c]], error, ?_, hpaved,
        hstop⟩
      rw [stations_concat, hway, List.append_assoc, List.cons_append]

/-- On a straight path, the directory of sockets is made and is empty, or nothing is made at all. -/
theorem opens_or_leaves (hrooted : f.Rooted) {directory : String}
    (hstraight : Path.IsStraight directory) (hdirectory : directory ≠ "")
    (hlook : f.look directory = .error .notFound) :
    (f.Clear directory ∧ ∃ opened l, f.Opens directory opened
        ∧ opened.locateDirectory (Path.components directory) = .ok l ∧ opened.Bare l)
      ∨ (¬ f.Clear directory ∧ ∃ error, f.Bars directory error f) := by
  have habsent := look_eq_notFound_iff.1 hlook
  obtain ⟨before, c, slashes, hcomponents, hcore, hslashes, hc, hup, hreadable⟩ :=
    exists_name hstraight habsent
  obtain ⟨hreadable, hcreadable⟩ :
      before.all Path.isReadable = true ∧ Path.isReadable c = true := by
    simpa using hreadable
  have hstays : Path.stays c = false := by
    simpa using (Bool.and_eq_true_iff.1 hc).1
  have hways : ancestors (Path.components directory) = stations before := by
    rw [hcomponents, ancestors_eq hstays hslashes]
  rw [Clear, hways, hcore]
  rcases advance hrooted before hup hreadable with
    ⟨f', hpaved, hadvanced, hpassable⟩ | ⟨past, p, after, error, hway, hpaved, hobstructed, hstop⟩
  · rcases hadvanced.step hrooted hc hcreadable hcore with
      ⟨made, hstep, hadvanced', hpassable'⟩ | ⟨error, rfl, hobstructed, hstop⟩
    · refine .inl ⟨?_, ?_⟩
      · intro way hway
        rcases List.mem_append.1 hway with hway | hway
        · exact hpassable way hway
        · exact List.mem_singleton.1 hway ▸ hpassable'
      · have hall : f.Paved (waysTo directory) made := by
          rw [waysTo, hways]
          exact hpaved.append hstep
        cases hadvanced' with
        | found hl => cases habsent.locateDirectory.symm.trans hl
        | @made _ _ l hbefore hl hbare =>
          refine ⟨_, l, .made hdirectory hlook hall hl, ?_, hbare.put_directory _⟩
          exact (furnishes_put (.inr (directory_of_locateDirectory hl))).keepsWays.locate hl
    · refine .inr ⟨fun hclear => hstop (hclear _ (by simp)), .files error, ?_⟩
      have hsplit : waysTo directory = stations before ++ Path.components directory :: [] := by
        rw [waysTo, hways]
      exact .obstructed hdirectory hlook hsplit hpaved hobstructed
  · refine .inr ⟨fun hclear => hstop (hclear p (by simp [hway])), .files error, ?_⟩
    have hsplit : waysTo directory
        = past ++ p :: (after ++ [Path.components directory]) := by
      rw [waysTo, hways, hway, List.append_assoc, List.cons_append]
    exact .obstructed hdirectory hlook hsplit hpaved hobstructed

end

end Files

end KeyBridge
