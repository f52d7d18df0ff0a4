import Scholarli.Base.Within
import Scholarli.Objects.Codec

/-!
# Writing back what was read

`Codec` says what reading makes of what was written. This file is about the
other composition: a stored document is read, and the record is written back.
Many documents read as one record: those with further fields, with a null for
what is absent, or with a boolean where a number is read. Among them the
encoding of the record is the least (`encoding_least`): what it has, each of
the others has too, at every depth. So writing back what was read adds no
field, and the next reader gets the same record.

The order on values that this is about is `Value.Within`.
-/

namespace Scholarli

open Base (Value Dict Document)

/-- The title that is looked up has the text it was looked up by. -/
theorem FacTitle.rawValue_of_ofRawValue {s : String} {t : FacTitle}
    (h : FacTitle.ofRawValue s = some t) : t.rawValue = s := by
  unfold ofRawValue at h
  repeat' split at h
  all_goals cases h
  all_goals
    symm
    assumption

/-- The encoding of a member of the faculty is within whatever it was read from. -/
theorem Faculty.within_of_ofData {data : Data} (hdata : data.Storable) {f : Faculty}
    (h : Faculty.ofData data = .ok f) : (Value.dict f.data).Within (.dict data) := by
  obtain ⟨haccount, hschedule⟩ := Faculty.ofData_bare hdata h
  unfold Faculty.ofData at h
  obtain ⟨id, hid, h⟩ := guardLet_bind_ok h
  obtain ⟨lastName, hlast, h⟩ := guardLet_bind_ok h
  obtain ⟨firstName, hfirst, h⟩ := guardLet_bind_ok h
  obtain ⟨titleStr, htitleStr, h⟩ := guardLet_bind_ok h
  obtain ⟨title, htitle, h⟩ := guardLet_bind_ok h
  obtain rfl := Except.ok.inj h
  rw [← FacTitle.rawValue_of_ofRawValue htitle] at htitleStr
  rw [Faculty.data_eq, haccount, hschedule]
  refine Dict.within_setIfLet (Dict.within_setIfLet (Dict.within_setIfLet (Dict.within_set
    (Dict.within_set (Dict.within_set Dict.within_empty ?_) ?_) ?_) ?_) ?_) ?_
  · exact Dict.offers_string hid
  · exact Dict.offers_string hlast
  · exact Dict.offers_string htitleStr
  · intro w hw
    cases hw
  · exact Dict.offers_optional hfirst
  · intro w hw
    cases hw

/-- The teacher of a course is read from a nested dictionary. -/
theorem Course.teacher_of_ofData {data : Data} (hdata : data.Storable) {c : Course}
    (h : Course.ofData data = .ok c) :
    ∃ teacherData : Data, data "teacher" = some (.dict teacherData) ∧ teacherData.Storable ∧
      Faculty.ofData teacherData = .ok c.teacher := by
  unfold Course.ofData at h
  obtain ⟨displayName, -, h⟩ := guardLet_bind_ok h
  obtain ⟨teacherData, hteacherData, h⟩ := guardLet_bind_ok h
  obtain ⟨schoolId, -, h⟩ := guardLet_bind_ok h
  obtain ⟨period, -, h⟩ := guardLet_bind_ok h
  obtain ⟨classroom, -, h⟩ := guardLet_bind_ok h
  obtain ⟨id, -, h⟩ := guardLet_bind_ok h
  obtain ⟨v, hv, hdict⟩ := Option.bind_eq_some_iff.mp hteacherData
  obtain rfl : v = .dict teacherData := by
    cases v with
    | dict d =>
      obtain rfl := Option.some.inj hdict
      rfl
    | string _ | int _ | bool _ | null | array _ | other _ | boxed _ => cases hdict
  have hstorable : teacherData.Storable := by
    cases hdata _ _ hv with
    | dict hentries => exact hentries
  refine ⟨teacherData, hv, hstorable, ?_⟩
  cases hteacher : Faculty.ofData teacherData with
  | error e =>
    rw [hteacher] at h
    cases h
  | ok teacher =>
    rw [hteacher] at h
    obtain rfl := Except.ok.inj h
    rfl

/-- The encoding of a course is within whatever it was read from. -/
theorem Course.within_of_ofData {data : Data} (hdata : data.Storable) {c : Course}
    (h : Course.ofData data = .ok c) : (Value.dict c.data).Within (.dict data) := by
  obtain ⟨teacherData, hteacher, hstorable, hdecode⟩ := Course.teacher_of_ofData hdata h
  have hwithin := Faculty.within_of_ofData hstorable hdecode
  unfold Course.ofData at h
  obtain ⟨displayName, hname, h⟩ := guardLet_bind_ok h
  obtain ⟨_, -, h⟩ := guardLet_bind_ok h
  obtain ⟨schoolId, hschool, h⟩ := guardLet_bind_ok h
  obtain ⟨period, hperiod, h⟩ := guardLet_bind_ok h
  obtain ⟨classroom, hroom, h⟩ := guardLet_bind_ok h
  obtain ⟨id, hid, h⟩ := guardLet_bind_ok h
  split at h
  next teacher _ =>
    obtain rfl := Except.ok.inj h
    rw [Course.data_eq]
    refine Dict.within_setIfLet (Dict.within_set (Dict.within_set (Dict.within_set
      (Dict.within_set (Dict.within_set Dict.within_empty ?_) ?_) ?_) ?_) ?_) ?_
    · exact Dict.offers_string hname
    · exact Dict.offers_string hid
    · exact ⟨_, hteacher, hwithin⟩
    · exact Dict.offers_string hschool
    · exact Dict.offers_int hperiod
    · exact Dict.offers_optional hroom
  next => cases h

/-- **The encoding is the least document.** Whatever stored document a member of
the faculty or a course is read from, its encoding reads the same, and each
entry of it, those of the nested teacher included, is in that document. So the
copy of a teacher that a course document gets has no field that the faculty
document did not have. -/
theorem encoding_least (document : Document Boxed) :
    (∀ f, Faculty.ofData document.data = .ok f →
      Faculty.ofData f.document.data = .ok f ∧
      (Value.dict f.document.data).Within (.dict document.data)) ∧
    (∀ c, Course.ofData document.data = .ok c →
      Course.ofData c.document.data = .ok c ∧
      (Value.dict c.document.data).Within (.dict document.data)) := by
  refine ⟨?_, ?_⟩
  · intro f h
    refine ⟨?_, Faculty.within_of_ofData document.storable h⟩
    exact (Faculty.ofData_data_eq_self_iff f).mpr (Faculty.ofData_bare document.storable h)
  · intro c h
    refine ⟨?_, Course.within_of_ofData document.storable h⟩
    obtain ⟨teacherData, -, hstorable, hteacher⟩ := Course.teacher_of_ofData document.storable h
    exact (Course.ofData_data_eq_self_iff c).mpr (Faculty.ofData_bare hstorable hteacher)

/-- A stored course in no normal form: the period a boolean, the room null, and
a field that no reader knows. -/
def looseFrench : Document Boxed where
  data := Dict.empty
    |>.set "displayName" (.string "French")
    |>.set "id" (.string "c7")
    |>.set "teacher" (.dict (kappel.bare.data.set "nickname" (.string "K")))
    |>.set "schoolId" (.string "mhs")
    |>.set "period" (.bool true)
    |>.set "classroom" .null
  storable := .set (.set (.set (.set (.set (.set .empty _ (.string _)) _ (.string _)) _
    (.dict (Dict.Storable.set kappel.bare.data_storable _ (.string _)))) _ (.string _)) _
    (.bool _)) _ .null

/-- What it reads as. -/
def french : Course where
  displayName := "French"
  id := "c7"
  teacher := kappel.bare
  schoolId := "mhs"
  period := 1
  classroom := none

theorem encoding_least_french :
    Course.ofData looseFrench.data = .ok french ∧ Course.ofData french.document.data = .ok french ∧
    (Value.dict french.document.data).Within (.dict looseFrench.data) := by
  have hread : Course.ofData looseFrench.data = .ok french := rfl
  exact ⟨hread, (encoding_least looseFrench).2 french hread⟩

end Scholarli
