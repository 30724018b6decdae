import Jordan.Library.Execution
import Jordan.Library.Puts
import Mathlib.Data.List.Basic

/-! # Choosing a baseband

`BasebandSelectionPreference.java` lets the user choose the firmware of the
modem. A choice is stored as `region:country:version`, and its file name in a
property, from which `00baseband` installs the files at the next boot. When the
preference is opened, `initValue` compares the stored choice with the MD5 of the
installed file, unless a switch is pending.

The choice it shows has the MD5 of the installed file if any known baseband has,
and opening the preference again changes nothing. What was selected is kept as
long as the openings find it installed or a switch pending
(`Jordan.DefyParts.initValue_truthful`).
-/

namespace Jordan.DefyParts

open Execution

/-- A string. -/
abbrev Text := List Char

/-! ## Splitting strings -/

/-- `TextUtils.split` by one character: an empty string has no parts. -/
def split (text : Text) (separator : Char) : List Text :=
  if text = [] then [] else text.splitOn separator

/-- A part of a split text holds no separator. -/
theorem separator_free_of_mem_splitOn {separator : Char} {text part : Text}
    (member : part ∈ text.splitOn separator) : separator ∉ part := by
  induction text generalizing part with
  | nil =>
      rw [List.splitOn_nil, List.mem_singleton] at member
      rw [member]
      exact List.not_mem_nil
  | cons first rest ih =>
      rw [List.splitOn_cons_eq_if_modifyHead] at member
      split at member
      next =>
        rcases List.mem_cons.mp member with rfl | later
        · exact List.not_mem_nil
        · exact ih later
      next other =>
        obtain ⟨head, tail, parts⟩ := List.exists_cons_of_ne_nil
          (List.splitOn_ne_nil separator rest)
        rw [parts, List.modifyHead_cons] at member
        rcases List.mem_cons.mp member with rfl | later
        · have head_free : separator ∉ head := ih (parts ▸ List.mem_cons_self)
          rw [List.mem_cons, not_or]
          exact ⟨fun same => other (beq_iff_eq.mpr same.symm), head_free⟩
        · exact ih (parts ▸ List.mem_cons_of_mem _ later)

theorem separator_free_of_mem_split {separator : Char} {text part : Text}
    (member : part ∈ split text separator) : separator ∉ part := by
  unfold split at member
  split at member
  next => cases member
  next => exact separator_free_of_mem_splitOn member

/-- Three parts without the separator are found again. -/
theorem split_joined {separator : Char} {first second third : Text} (firstFree : separator ∉ first)
    (secondFree : separator ∉ second) (thirdFree : separator ∉ third) :
    split (first ++ separator :: (second ++ separator :: third)) separator =
      [first, second, third] := by
  have nonempty : first ++ separator :: (second ++ separator :: third) ≠ [] :=
    List.append_ne_nil_of_right_ne_nil _ (List.cons_ne_nil _ _)
  unfold split
  rw [if_neg nonempty, List.splitOn_append_cons_self_of_not_mem firstFree,
    List.splitOn_append_cons_self_of_not_mem secondFree, List.splitOn_eq_singleton thirdFree]

/-! ## The known basebands -/

/-- `BasebandInfo`, but for its reference to a country. -/
structure BasebandInfo where
  region : Text
  country : Text
  version : Text
  frequencies : List Text
  filename : Text
  md5sum : Text
deriving DecidableEq, Repr

/-- The arrays of the resources. A region has no countries if one of its two
arrays does not exist. -/
structure BasebandArrays where
  availableBasebands : List Text
  regionValues : List Text
  countryValues : Text → Option (List Text)

/-- An item has six parts; others are ignored. -/
def parseBaseband (item : Text) : Option BasebandInfo :=
  match split item ':' with
  | [region, country, version, frequencies, filename, md5sum] =>
      some ⟨region, country, version, split frequencies ',', filename, md5sum⟩
  | _ => none

/-- `CountryInfo`, with the name of its region for the reference to it. -/
structure CountryInfo where
  name : Text
  regionName : Text
  basebands : Text → Option BasebandInfo

/-- `RegionInfo` -/
structure RegionInfo where
  name : Text
  countries : Text → Option CountryInfo

namespace BasebandArrays

variable (arrays : BasebandArrays)

/-- `buildBasebandList` -/
def basebands : List BasebandInfo := arrays.availableBasebands.filterMap parseBaseband

/-- The inner loops of `buildRegionMap`, over the countries of a region and over
the basebands. -/
def buildCountry (regionName countryName : Text) : CountryInfo where
  name := countryName
  regionName := regionName
  basebands := Puts.putAll
    ((arrays.basebands.filter fun baseband =>
        regionName = baseband.region ∧ countryName = baseband.country).map fun baseband =>
      (baseband.version, baseband))

def buildRegion (regionName : Text) : RegionInfo where
  name := regionName
  countries := Puts.putAll
    (((arrays.countryValues regionName).getD []).map fun countryName =>
      (countryName, arrays.buildCountry regionName countryName))

/-- `buildRegionMap` -/
def buildRegionMap : Text → Option RegionInfo :=
  Puts.putAll (arrays.regionValues.map fun regionName =>
    (regionName, arrays.buildRegion regionName))

/-- The names of the region and the country that `buildRegionMap` makes a
baseband refer to: those of the last country that it belongs to. -/
def countryInfo (baseband : BasebandInfo) : Option (Text × Text) :=
  let countries := arrays.regionValues.flatMap fun regionName =>
    ((arrays.countryValues regionName).getD []).map fun countryName => (regionName, countryName)
  (countries.filter fun (regionName, countryName) =>
    regionName = baseband.region ∧ countryName = baseband.country).getLast?

/-- `getBaseband` -/
def getBaseband (region country version : Text) : Option BasebandInfo :=
  (arrays.buildRegionMap region).bind fun regionInfo =>
    (regionInfo.countries country).bind fun countryInfo => countryInfo.basebands version

/-- Region, country and version are unique together, and name an entry of the
arrays. -/
structure WellFormed : Prop where
  unique : ∀ baseband ∈ arrays.basebands, ∀ other ∈ arrays.basebands,
    baseband.region = other.region → baseband.country = other.country →
      baseband.version = other.version → baseband = other
  named : ∀ baseband ∈ arrays.basebands, baseband.region ∈ arrays.regionValues ∧
    ∃ countries ∈ arrays.countryValues baseband.region, baseband.country ∈ countries

end BasebandArrays

/-! ## The stores -/

/-- The stored choice, the property `persist.sys.new_baseband` with its file, the
MD5 of the installed file unless it cannot be read, and `mCurrentBaseband`. -/
structure Phone where
  preference : Option Text
  newBaseband : Option Text
  installed : Option Text
  mCurrentBaseband : Option BasebandInfo
deriving DecidableEq, Repr

namespace Phone

variable (arrays : BasebandArrays)

/-- A switch is pending: the property is not empty. -/
def Pending (phone : Phone) : Prop := phone.newBaseband.getD [] ≠ []

instance (phone : Phone) : Decidable phone.Pending := inferInstanceAs (Decidable (_ ≠ _))

/-- `updatePrefValue`. A baseband that refers to no country ends it with an
exception. -/
def updatePrefValue (phone : Phone) (baseband : Option BasebandInfo) : Option Phone :=
  match baseband with
  | none => some { phone with preference := none }
  | some baseband =>
      (arrays.countryInfo baseband).map fun (region, country) =>
        { phone with preference := some (region ++ ':' :: (country ++ ':' :: baseband.version)) }

/-- The baseband of the stored choice. -/
def storedBaseband (phone : Phone) : Option BasebandInfo :=
  phone.preference.bind fun basebandString =>
    match split basebandString ':' with
    | [region, country, version] => arrays.getBaseband region country version
    | _ => none

/-- `initValue` -/
def initValue (phone : Phone) : Option Phone :=
  let (baseband, needUpdate) :=
    match phone.storedBaseband arrays with
    | none => (none, false)
    | some baseband =>
        -- always trust the setting if we didn't reboot after setting it
        if some baseband.md5sum ≠ phone.installed ∧ ¬ phone.Pending then (none, true)
        else (some baseband, false)
  let (baseband, needUpdate) :=
    match baseband with
    | some baseband => (some baseband, needUpdate)
    | none =>
        match arrays.basebands.find? fun bb : BasebandInfo => some bb.md5sum = phone.installed with
        | some bb => (some bb, true)
        | none => (none, needUpdate)
  let phone := { phone with mCurrentBaseband := baseband }
  if needUpdate then phone.updatePrefValue arrays baseband else some phone

/-- `updateValue` of a baseband; setting the property may be refused. -/
def updateValue (phone : Phone) (baseband : BasebandInfo) (accepted : Bool) : Option Phone :=
  (phone.updatePrefValue arrays (some baseband)).map fun phone =>
    { phone with
      mCurrentBaseband := some baseband
      newBaseband := if accepted then some baseband.filename else phone.newBaseband }

/-- `00baseband` at boot. `zips` says which archives are files, and the MD5 of the
installed file after unpacking one. -/
def boot (phone : Phone) (zips : Text → Option (Option Text)) : Phone :=
  match phone.newBaseband with
  | none => phone
  | some newBaseband =>
      { phone with
        newBaseband := none
        installed := (zips newBaseband).getD phone.installed }

end Phone

/-- What can happen: a choice in the dialog, a reboot, opening the preference. -/
inductive PhoneAction where
  | select (region country version : Text) (accepted : Bool)
  | reboot (zips : Text → Option (Option Text))
  | openPreference

namespace Phone

variable (arrays : BasebandArrays)

/-- One action. The dialog offers the known basebands only. -/
def step (phone : Phone) : PhoneAction → Option Phone
  | .select region country version accepted =>
      (arrays.getBaseband region country version).bind fun baseband =>
        phone.updateValue arrays baseband accepted
  | .reboot zips => some (phone.boot zips)
  | .openPreference => phone.initValue arrays

/-- `initValue` shows the baseband that is installed, keeps the stored choice if
it can be that one, and changes nothing when it runs again. -/
structure Truthful (before after : Phone) : Prop where
  unknown_iff : after.mCurrentBaseband = none ↔
    ∀ baseband ∈ arrays.basebands, some baseband.md5sum ≠ before.installed
  shown : ∀ baseband ∈ after.mCurrentBaseband, some baseband.md5sum = before.installed
  kept : ∀ baseband ∈ before.storedBaseband arrays, some baseband.md5sum = before.installed →
    after.mCurrentBaseband = some baseband
  stable : after.initValue arrays = some after

/-- Opening the preference with no switch pending is truthful. -/
def OpensTruthfully (before : Phone) (action : PhoneAction) (after : Phone) : Prop :=
  action = .openPreference → ¬ before.Pending → Truthful arrays before after

/-- A baseband is the stored choice, and is shown when the preference is opened. -/
structure Keeps (baseband : BasebandInfo) (action : PhoneAction) (after : Phone) : Prop where
  stored : after.storedBaseband arrays = some baseband
  shown : action = .openPreference → after.mCurrentBaseband = some baseband

/-- No other baseband is selected, and an opening finds the baseband installed or a switch
pending. -/
def Trusts (baseband : BasebandInfo) (phone : Phone) : PhoneAction → Prop
  | .select region country version _ => arrays.getBaseband region country version = some baseband
  | .reboot _ => True
  | .openPreference => some baseband.md5sum = phone.installed ∨ phone.Pending

instance (baseband : BasebandInfo) (phone : Phone) (action : PhoneAction) :
    Decidable (phone.Trusts arrays baseband action) :=
  match action with
  | .select _ _ _ _ => inferInstanceAs (Decidable (_ = _))
  | .reboot _ => isTrue trivial
  | .openPreference => inferInstanceAs (Decidable (_ ∨ _))

end Phone

/-! ## The maps -/

section Maps

variable {arrays : BasebandArrays} {baseband : BasebandInfo}

/-- The names in the list are free of the separator. -/
theorem separator_free_of_mem (member : baseband ∈ arrays.basebands) :
    ':' ∉ baseband.region ∧ ':' ∉ baseband.country ∧ ':' ∉ baseband.version := by
  obtain ⟨item, _, parsed⟩ := List.mem_filterMap.mp member
  unfold parseBaseband at parsed
  split at parsed
  next region country version frequencies filename md5sum parts =>
    obtain rfl := Option.some.inj parsed
    have free {part : Text} (among : part ∈ split item ':') : ':' ∉ part :=
      separator_free_of_mem_split among
    rw [parts] at free
    exact ⟨free (by simp), free (by simp), free (by simp)⟩
  next => cases parsed

theorem mem_country_basebands {regionName countryName version : Text}
    (found : (arrays.buildCountry regionName countryName).basebands version = some baseband) :
    baseband ∈ arrays.basebands ∧ baseband.region = regionName ∧
      baseband.country = countryName ∧ baseband.version = version := by
  obtain ⟨other, chosen, same⟩ := List.mem_map.mp (Puts.mem_of_putAll found)
  obtain ⟨rfl, rfl⟩ := Prod.mk.inj same
  obtain ⟨member, belongs⟩ := List.mem_filter.mp chosen
  obtain ⟨region, country⟩ := of_decide_eq_true belongs
  exact ⟨member, region.symm, country.symm, rfl⟩

/-- `getBaseband` returns a known baseband with the names it is asked for. -/
theorem mem_of_getBaseband {region country version : Text}
    (found : arrays.getBaseband region country version = some baseband) :
    baseband ∈ arrays.basebands ∧ baseband.region = region ∧ baseband.country = country ∧
      baseband.version = version := by
  obtain ⟨regionInfo, inRegion, found⟩ := Option.bind_eq_some_iff.mp found
  obtain ⟨countryInfo, inCountry, found⟩ := Option.bind_eq_some_iff.mp found
  obtain rfl := Puts.eq_of_putAll_map inRegion
  obtain rfl := Puts.eq_of_putAll_map inCountry
  exact mem_country_basebands found

/-- Every known baseband is found under its names. -/
theorem getBaseband_of_mem (wellFormed : arrays.WellFormed) (member : baseband ∈ arrays.basebands) :
    arrays.getBaseband baseband.region baseband.country baseband.version = some baseband := by
  obtain ⟨region, countries, values, country⟩ := wellFormed.named baseband member
  have inRegion : arrays.buildRegionMap baseband.region =
      some (arrays.buildRegion baseband.region) :=
    Puts.putAll_map_of_mem arrays.buildRegion region
  have inCountry : (arrays.buildRegion baseband.region).countries baseband.country =
      some (arrays.buildCountry baseband.region baseband.country) := by
    have listed : baseband.country ∈ (arrays.countryValues baseband.region).getD [] := by
      rw [Option.mem_def.mp values]
      exact country
    exact Puts.putAll_map_of_mem (arrays.buildCountry baseband.region) listed
  have inVersion : (arrays.buildCountry baseband.region baseband.country).basebands
      baseband.version = some baseband := by
    apply Puts.putAll_of_unique
    · exact List.mem_map_of_mem (List.mem_filter.mpr ⟨member, decide_eq_true ⟨rfl, rfl⟩⟩)
    · intro other put
      obtain ⟨_, chosen, same⟩ := List.mem_map.mp put
      obtain ⟨version, rfl⟩ := Prod.mk.inj same
      obtain ⟨known, belongs⟩ := List.mem_filter.mp chosen
      obtain ⟨region, country⟩ := of_decide_eq_true belongs
      exact wellFormed.unique _ known _ member region.symm country.symm version
  unfold BasebandArrays.getBaseband
  rw [inRegion, Option.bind_some, inCountry, Option.bind_some, inVersion]

/-- A known baseband refers to the country it names. -/
theorem countryInfo_of_mem (wellFormed : arrays.WellFormed) (member : baseband ∈ arrays.basebands) :
    arrays.countryInfo baseband = some (baseband.region, baseband.country) := by
  obtain ⟨region, countries, values, country⟩ := wellFormed.named baseband member
  unfold BasebandArrays.countryInfo
  have belongs : (baseband.region, baseband.country) ∈
      (arrays.regionValues.flatMap fun regionName =>
        ((arrays.countryValues regionName).getD []).map fun countryName =>
          (regionName, countryName)).filter fun (regionName, countryName) =>
        regionName = baseband.region ∧ countryName = baseband.country := by
    refine List.mem_filter.mpr ⟨List.mem_flatMap.mpr ⟨_, region, ?_⟩, decide_eq_true ⟨rfl, rfl⟩⟩
    rw [Option.mem_def.mp values]
    exact List.mem_map_of_mem country
  obtain ⟨last, found⟩ := Option.ne_none_iff_exists'.mp
    (mt List.getLast?_eq_none_iff.mp (List.ne_nil_of_mem belongs))
  obtain ⟨_, same⟩ := List.mem_filter.mp (List.mem_of_getLast? found)
  obtain ⟨sameRegion, sameCountry⟩ := of_decide_eq_true same
  rw [found]
  exact congrArg some (Prod.ext sameRegion sameCountry)

end Maps

/-! ## Opening the preference -/

section Opening

variable {arrays : BasebandArrays} {phone : Phone} {baseband : BasebandInfo}

theorem mem_of_storedBaseband (stored : phone.storedBaseband arrays = some baseband) :
    baseband ∈ arrays.basebands := by
  obtain ⟨basebandString, _, found⟩ := Option.bind_eq_some_iff.mp stored
  split at found
  next => exact (mem_of_getBaseband found).1
  next => cases found

/-- A known baseband that is stored is read back. -/
theorem exists_updatePrefValue (wellFormed : arrays.WellFormed) (phone : Phone)
    (member : baseband ∈ arrays.basebands) :
    ∃ preference, phone.updatePrefValue arrays (some baseband) = some { phone with preference } ∧
      ({ phone with preference } : Phone).storedBaseband arrays = some baseband := by
  obtain ⟨regionFree, countryFree, versionFree⟩ := separator_free_of_mem member
  refine ⟨some (baseband.region ++ ':' :: (baseband.country ++ ':' :: baseband.version)), ?_, ?_⟩
  · simp only [Phone.updatePrefValue, countryInfo_of_mem wellFormed member, Option.map_some]
  · unfold Phone.storedBaseband
    rw [Option.bind_some, split_joined regionFree countryFree versionFree]
    exact getBaseband_of_mem wellFormed member

/-- A stored choice is shown if it has the MD5 of the installed file, or if a
switch is pending. -/
theorem initValue_of_stored (stored : phone.storedBaseband arrays = some baseband)
    (trusted : some baseband.md5sum = phone.installed ∨ phone.Pending) :
    phone.initValue arrays = some { phone with mCurrentBaseband := some baseband } := by
  have mistrust : ¬ (some baseband.md5sum ≠ phone.installed ∧ ¬ phone.Pending) := by
    rintro ⟨other, settled⟩
    exact trusted.elim other settled
  unfold Phone.initValue
  rw [stored]
  simp only [mistrust, if_false, Bool.false_eq_true]

theorem find?_eq_none_iff :
    (arrays.basebands.find? fun bb : BasebandInfo => some bb.md5sum = phone.installed) = none ↔
      ∀ bb ∈ arrays.basebands, some bb.md5sum ≠ phone.installed := by
  rw [List.find?_eq_none]
  exact forall₂_congr fun bb _ => not_congr decide_eq_true_iff

theorem installed_of_find?
    (found : (arrays.basebands.find? fun bb : BasebandInfo => some bb.md5sum = phone.installed) =
      some baseband) : some baseband.md5sum = phone.installed :=
  of_decide_eq_true (List.find?_some (p := fun bb : BasebandInfo =>
    decide (some bb.md5sum = phone.installed)) found)

theorem initValue_of_nothing (nothing : phone.storedBaseband arrays = none)
    (unknown : ∀ bb ∈ arrays.basebands, some bb.md5sum ≠ phone.installed) :
    phone.initValue arrays = some { phone with mCurrentBaseband := none } := by
  unfold Phone.initValue
  rw [nothing, find?_eq_none_iff.mpr unknown]
  rfl

/-- What `initValue` does: it keeps the stored choice, or shows and stores another
baseband that may be installed, or shows none. -/
inductive Opened (arrays : BasebandArrays) (phone : Phone) : Phone → Prop where
  | kept {stored : BasebandInfo} (choice : phone.storedBaseband arrays = some stored)
      (trusted : some stored.md5sum = phone.installed ∨ phone.Pending) :
      Opened arrays phone { phone with mCurrentBaseband := some stored }
  | found {preference : Option Text} {baseband : BasebandInfo}
      (mistrust : ∀ stored ∈ phone.storedBaseband arrays,
        some stored.md5sum ≠ phone.installed ∧ ¬ phone.Pending)
      (member : baseband ∈ arrays.basebands) (installed : some baseband.md5sum = phone.installed)
      (stored : ({ phone with preference } : Phone).storedBaseband arrays = some baseband) :
      Opened arrays phone { phone with preference, mCurrentBaseband := some baseband }
  | unknown {preference : Option Text}
      (mistrust : ∀ stored ∈ phone.storedBaseband arrays,
        some stored.md5sum ≠ phone.installed ∧ ¬ phone.Pending)
      (unknown : ∀ bb ∈ arrays.basebands, some bb.md5sum ≠ phone.installed)
      (removed : ({ phone with preference } : Phone).storedBaseband arrays = none) :
      Opened arrays phone { phone with preference, mCurrentBaseband := none }

theorem initValue_of_unknown
    (mistrust : ∀ stored ∈ phone.storedBaseband arrays,
      some stored.md5sum ≠ phone.installed ∧ ¬ phone.Pending)
    (unknown : ∀ bb ∈ arrays.basebands, some bb.md5sum ≠ phone.installed) :
    ∃ after, phone.initValue arrays = some after ∧ Opened arrays phone after := by
  cases stored : phone.storedBaseband arrays with
  | none => exact ⟨_, initValue_of_nothing stored unknown, .unknown mistrust unknown stored⟩
  | some baseband =>
      obtain ⟨mismatch, settled⟩ := mistrust baseband stored
      have removed : phone.initValue arrays =
          some { phone with preference := none, mCurrentBaseband := none } := by
        unfold Phone.initValue
        rw [stored, find?_eq_none_iff.mpr unknown]
        simp only [mismatch, settled, ne_eq, not_false_eq_true, and_self, if_true]
        rfl
      exact ⟨_, removed, .unknown mistrust unknown rfl⟩

theorem initValue_of_found (wellFormed : arrays.WellFormed)
    (mistrust : ∀ stored ∈ phone.storedBaseband arrays,
      some stored.md5sum ≠ phone.installed ∧ ¬ phone.Pending)
    (found : (arrays.basebands.find? fun bb : BasebandInfo => some bb.md5sum = phone.installed) =
      some baseband) :
    ∃ after, phone.initValue arrays = some after ∧ Opened arrays phone after := by
  have member : baseband ∈ arrays.basebands := List.mem_of_find?_eq_some found
  obtain ⟨preference, updated, stored⟩ := exists_updatePrefValue wellFormed
    { phone with mCurrentBaseband := some baseband } member
  refine ⟨_, ?_, .found mistrust member (installed_of_find? found) stored⟩
  unfold Phone.initValue
  rw [found]
  cases kept : phone.storedBaseband arrays with
  | none => exact updated
  | some other =>
      obtain ⟨mismatch, settled⟩ := mistrust other kept
      simp only [mismatch, settled, ne_eq, not_false_eq_true, and_self, if_true]
      exact updated

/-- Opening the preference does not end with an exception. -/
theorem initValue_opened (wellFormed : arrays.WellFormed) (phone : Phone) :
    ∃ after, phone.initValue arrays = some after ∧ Opened arrays phone after := by
  by_cases trusted : ∃ stored, phone.storedBaseband arrays = some stored ∧
      (some stored.md5sum = phone.installed ∨ phone.Pending)
  · obtain ⟨stored, choice, trusted⟩ := trusted
    exact ⟨_, initValue_of_stored choice trusted, .kept choice trusted⟩
  · have mistrust : ∀ stored ∈ phone.storedBaseband arrays,
        some stored.md5sum ≠ phone.installed ∧ ¬ phone.Pending :=
      fun stored choice => not_or.mp fun reason => trusted ⟨stored, choice, reason⟩
    cases search : arrays.basebands.find? fun bb : BasebandInfo =>
        some bb.md5sum = phone.installed with
    | none => exact initValue_of_unknown mistrust (find?_eq_none_iff.mp search)
    | some baseband => exact initValue_of_found wellFormed mistrust search

/-- Running `initValue` again on what a known baseband left changes nothing. -/
theorem initValue_stable (stored : phone.storedBaseband arrays = some baseband)
    (shown : phone.mCurrentBaseband = some baseband)
    (installed : some baseband.md5sum = phone.installed) : phone.initValue arrays = some phone := by
  rw [initValue_of_stored stored (.inl installed), ← shown]

/-- With no switch pending, the choice is kept only if it may be installed. -/
theorem Opened.truthful {after : Phone} (opened : Opened arrays phone after)
    (settled : ¬ phone.Pending) : Phone.Truthful arrays phone after := by
  cases opened with
  | @kept stored choice trusted =>
      have installed : some stored.md5sum = phone.installed := trusted.resolve_right settled
      refine ⟨?_, ?_, ?_, ?_⟩
      · exact iff_of_false (Option.some_ne_none stored)
          fun unknown => unknown stored (mem_of_storedBaseband choice) installed
      · intro baseband shown
        exact Option.some.inj shown ▸ installed
      · intro baseband also _
        exact choice.symm.trans also
      · exact initValue_stable choice rfl installed
  | @found preference baseband mistrust member installed stored =>
      refine ⟨?_, ?_, ?_, ?_⟩
      · exact iff_of_false (Option.some_ne_none baseband)
          fun unknown => unknown baseband member installed
      · intro other shown
        exact Option.some.inj shown ▸ installed
      · intro other choice same
        exact absurd same (mistrust other choice).1
      · exact initValue_stable stored rfl installed
  | unknown _ unknown removed =>
      refine ⟨?_, ?_, ?_, ?_⟩
      · exact iff_of_true rfl unknown
      · intro baseband shown
        cases shown
      · intro baseband choice installed
        exact absurd installed (unknown baseband (mem_of_storedBaseband choice))
      · exact initValue_of_nothing removed unknown

end Opening

/-! ## The theorem -/

/-- A baseband that the dialog offers is stored and shown when it is selected. -/
theorem exists_select {arrays : BasebandArrays} {baseband : BasebandInfo}
    {region country version : Text} (wellFormed : arrays.WellFormed)
    (found : arrays.getBaseband region country version = some baseband) (phone : Phone)
    (accepted : Bool) :
    ∃ selected, Phone.step arrays phone (.select region country version accepted) = some selected ∧
      selected.storedBaseband arrays = some baseband ∧
      selected.mCurrentBaseband = some baseband := by
  obtain ⟨preference, updated, stored⟩ :=
    exists_updatePrefValue wellFormed phone (mem_of_getBaseband found).1
  refine ⟨{ phone with
    preference := preference
    mCurrentBaseband := some baseband
    newBaseband := if accepted then some baseband.filename else phone.newBaseband },
    ?_, stored, rfl⟩
  simp only [Phone.step, found, Option.bind_some, Phone.updateValue, updated, Option.map_some]

/-- A reboot leaves the stored choice. -/
theorem boot_storedBaseband {arrays : BasebandArrays} (phone : Phone)
    (zips : Text → Option (Option Text)) :
    (phone.boot zips).storedBaseband arrays = phone.storedBaseband arrays := by
  unfold Phone.boot
  split
  next => rfl
  next => rfl

/-- An opening keeps the stored choice exactly if it trusts it. -/
theorem Opened.keeps_iff {arrays : BasebandArrays} {phone after : Phone}
    {baseband : BasebandInfo} (opened : Opened arrays phone after)
    (choice : phone.storedBaseband arrays = some baseband) :
    Phone.Keeps arrays baseband .openPreference after ↔
      some baseband.md5sum = phone.installed ∨ phone.Pending := by
  cases opened with
  | @kept stored same trusted =>
      obtain rfl := Option.some.inj (same.symm.trans choice)
      exact iff_of_true ⟨choice, fun _ => rfl⟩ trusted
  | @found preference other mistrust member installed stored =>
      obtain ⟨mismatch, settled⟩ := mistrust baseband choice
      refine iff_of_false (fun keeps => mismatch ?_) (not_or.mpr ⟨mismatch, settled⟩)
      obtain rfl := Option.some.inj (keeps.shown rfl)
      exact installed
  | unknown mistrust unknown removed =>
      refine iff_of_false (fun keeps => ?_) (not_or.mpr (mistrust baseband choice))
      exact Option.some_ne_none baseband (keeps.shown rfl).symm

/-- What was selected is kept by an action exactly if the action trusts it. -/
theorem keeps_iff {arrays : BasebandArrays} {baseband : BasebandInfo} {before after : Phone}
    {action : PhoneAction} (wellFormed : arrays.WellFormed)
    (stored : before.storedBaseband arrays = some baseband)
    (taken : Phone.step arrays before action = some after) :
    Phone.Keeps arrays baseband action after ↔ Phone.Trusts arrays baseband before action := by
  cases action with
  | select region country version accepted =>
      obtain ⟨other, found, _⟩ := Option.bind_eq_some_iff.mp taken
      obtain ⟨selected, same, chosen, _⟩ := exists_select wellFormed found before accepted
      obtain rfl := Option.some.inj (same.symm.trans taken)
      constructor
      · intro keeps
        exact found.trans (chosen.symm.trans keeps.stored)
      · intro trusts
        exact ⟨chosen.trans (found.symm.trans trusts), PhoneAction.noConfusion⟩
  | reboot zips =>
      obtain rfl := Option.some.inj taken
      refine iff_of_true ⟨(boot_storedBaseband before zips).trans stored, ?_⟩ trivial
      exact PhoneAction.noConfusion
  | openPreference =>
      obtain ⟨_, initialised, opened⟩ := initValue_opened wellFormed before
      obtain rfl := Option.some.inj (initialised.symm.trans taken)
      exact opened.keeps_iff stored

/-- The action does not select a baseband that does not exist. -/
def PhoneAction.Offered (arrays : BasebandArrays) : PhoneAction → Prop
  | .select region country version _ => arrays.getBaseband region country version ≠ none
  | .reboot _ => True
  | .openPreference => True

/-- **The setting is truthful.** When region, country and version name a baseband
and each baseband names an entry of the arrays, no action that the dialog offers
ends with an exception. Along every sequence of choices, reboots and openings,
each opening with no switch pending shows a baseband exactly if a known one has
the MD5 of the installed file, and one that has it; it keeps the stored choice if
that has it too; and opening once more changes nothing. What is selected is
stored and shown, and stays so exactly if no other one is selected and each
opening finds it installed or a switch pending. -/
theorem initValue_truthful (arrays : BasebandArrays) (wellFormed : arrays.WellFormed)
    (start : Phone) (actions : List PhoneAction) :
    (∀ phone action, PhoneAction.Offered arrays action → Phone.step arrays phone action ≠ none) ∧
      Along (Phone.step arrays) (Phone.OpensTruthfully arrays) start actions ∧
      ∀ region country version accepted,
        ∀ baseband ∈ arrays.getBaseband region country version,
        ∃ selected,
          Phone.step arrays start (.select region country version accepted) = some selected ∧
          selected.storedBaseband arrays = some baseband ∧
          selected.mCurrentBaseband = some baseband ∧
          (Along (Phone.step arrays) (fun _ => Phone.Keeps arrays baseband) selected actions ↔
            Guarded (Phone.step arrays) (Phone.Trusts arrays baseband) selected actions) := by
  refine ⟨?_, ?_, ?_⟩
  · intro phone action offered
    cases action with
    | reboot zips => exact Option.some_ne_none _
    | openPreference =>
        obtain ⟨after, opened, _⟩ := initValue_opened wellFormed phone
        exact Option.ne_none_iff_exists'.mpr ⟨after, opened⟩
    | select region country version accepted =>
        obtain ⟨baseband, found⟩ := Option.ne_none_iff_exists'.mp offered
        obtain ⟨selected, taken, _⟩ := exists_select wellFormed found phone accepted
        exact Option.ne_none_iff_exists'.mpr ⟨selected, taken⟩
  · apply along_of_forall
    rintro before _ after taken rfl settled
    obtain ⟨_, initialised, opened⟩ := initValue_opened wellFormed before
    obtain rfl := Option.some.inj (initialised.symm.trans taken)
    exact opened.truthful settled
  · intro region country version accepted baseband found
    obtain ⟨selected, taken, stored, shown⟩ := exists_select wellFormed found start accepted
    refine ⟨selected, taken, stored, shown, ?_⟩
    refine along_iff (fun phone => phone.storedBaseband arrays = some baseband)
      (fun before action after stored trusts taken => ?_)
      (fun before action after stored taken keeps => ?_) stored actions
    · have keeps := (keeps_iff wellFormed stored taken).mpr trusts
      exact ⟨keeps.stored, keeps⟩
    · exact (keeps_iff wellFormed stored taken).mp keeps

/-- Two versions of one country whose firmware is the same. -/
def twoVersions : BasebandArrays where
  availableBasebands :=
    [['e', ':', 'd', ':', '1', ':', '8', ',', '9', ':', 'f', ':', 'm'],
     ['e', ':', 'd', ':', '2', ':', '8', ':', 'g', ':', 'm']]
  regionValues := [['e']]
  countryValues region := if region = ['e'] then some [['d']] else none

theorem twoVersions_wellFormed : twoVersions.WellFormed := by
  constructor <;> decide

/-- The second one of them. -/
def secondVersion : BasebandInfo := ⟨['e'], ['d'], ['2'], [['8']], ['g'], ['m']⟩

/-- The second version is selected, flashed, and kept although the first one has
the same MD5. -/
theorem twoVersions_truthful :
    ((∀ phone action, PhoneAction.Offered twoVersions action →
        Phone.step twoVersions phone action ≠ none) ∧
      Along (Phone.step twoVersions) (Phone.OpensTruthfully twoVersions) ⟨none, none, none, none⟩
        [.select ['e'] ['d'] ['2'] true, .reboot fun _ => some (some ['m']), .openPreference]) ∧
      ∃ selected, Phone.step twoVersions ⟨none, none, none, none⟩
          (.select ['e'] ['d'] ['2'] true) = some selected ∧
        Along (Phone.step twoVersions) (fun _ => Phone.Keeps twoVersions secondVersion) selected
          [.reboot fun _ => some (some ['m']), .openPreference] := by
  have truthful := initValue_truthful twoVersions twoVersions_wellFormed ⟨none, none, none, none⟩
  obtain ⟨selected, taken, _, _, keeps_iff⟩ :=
    (truthful [.reboot fun _ => some (some ['m']), .openPreference]).2.2 ['e'] ['d'] ['2'] true
      secondVersion (by decide +kernel)
  refine ⟨⟨(truthful []).1, (truthful _).2.1⟩, selected, taken, keeps_iff.mpr ?_⟩
  obtain rfl := Option.some.inj taken
  decide +kernel

end Jordan.DefyParts
