import Scholarli.SignUp.Backed

/-!
# Clients share one catalogue

The clients of `cloud` taken apart: every client is at the end of a run of the
sign-up process in which each step is backed by the database as it is now
(`clients_backed`). The work is in one step: that a document written by a form
keeps the database sound (`Sound.setData`), because the form's staff is stored
and its school is listed, and that the promise of new ids, which is about the
database, gives one about the client's screens (`backed_of_firestore`), because
every course on them is stored.
-/

namespace Scholarli

open Base (Machine Document Table World)

variable {lower : String → String}

theorem School.max_of_ofData {data : Data} {school : School} (h : School.ofData data = .ok school) :
    ∃ m, school.maxStudentCourseLoad = some m := by
  unfold School.ofData at h
  obtain ⟨displayName, -, h⟩ := guardLet_bind_ok h
  obtain ⟨id, -, h⟩ := guardLet_bind_ok h
  obtain ⟨typeStr, -, h⟩ := guardLet_bind_ok h
  obtain ⟨type, -, h⟩ := guardLet_bind_ok h
  obtain ⟨streetAddress, -, h⟩ := guardLet_bind_ok h
  obtain ⟨city, -, h⟩ := guardLet_bind_ok h
  obtain ⟨zipCode, -, h⟩ := guardLet_bind_ok h
  obtain ⟨state, -, h⟩ := guardLet_bind_ok h
  obtain ⟨maxStudentCourseLoad, -, h⟩ := guardLet_bind_ok h
  obtain rfl := Except.ok.inj h
  exact ⟨maxStudentCourseLoad, rfl⟩

namespace Flow

variable {store : Store} {flow flow' : Flow} {e : Event}

/-- A document that a step adds is a course or a teacher of a listed school. -/
inductive Adds (store : Store) : Write → Prop
  | course {school : School} {course : Course} (hschool : store.HasSchool school.listed)
      (hid : course.schoolId = school.id) (hbare : course.teacher.IsBare)
      (hteacher : store.HasFaculty school.id course.teacher)
      (hperiod : store.HasPeriod school.id course.period) : Adds store (course.write school.id)
  | faculty {school : School} {teacher : Faculty} (hschool : store.HasSchool school.listed)
      (hbare : teacher.IsBare) : Adds store (teacher.write school.id)

/-- **Inversion** of a write by a client that is backed by the store. -/
theorem adds_of_write? (hstore : store.Sound) (hreach : (signUp lower).Reaches (Backed store) flow)
    (hs : flow.step lower e = some flow') {write : Write} (hwrite : flow.write? e = some write) :
    Adds store write := by
  obtain ⟨vc, vc', ae, rfl, hvc, hstep, hwrite⟩ := form_of_write? hs hwrite
  have hform := form_of_reachable hreach.reachable vc hvc
  have hlisted : ∀ school, vc.school = some school → store.HasSchool school.listed :=
    fun school hschool => (genuine_of_reaches hstore hreach school (.shown hvc hschool)).listed
  cases ae with
  | addClass documentID =>
    obtain ⟨school, course, hschool, rfl, -, hid, hteacher, hperiod⟩ :=
      AddClassViewController.addClass_written hform hstep hwrite
    have hstaffed := staffed_of_reaches hstore hreach vc hvc
    refine .course (hlisted school hschool) hid ?_ ?_ ?_
    · exact (AddClassViewController.formInv_of_reachable hform).teacherBare _ hteacher
    · exact hstaffed.teacher school hschool _ hteacher
    · obtain ⟨_, _, _, hdecode⟩ := hlisted school hschool
      obtain ⟨m, hm⟩ := School.max_of_ofData hdecode
      exact ⟨school.listed, m, hlisted school hschool, rfl, hm, hperiod m hm⟩
  | endAddTeacher documentID =>
    obtain ⟨school, teacher, hschool, rfl, -, hbare⟩ :=
      AddClassViewController.endAddTeacher_written hform hwrite
    exact .faculty (hlisted school hschool) hbare
  | editClassTitle _ | editRoomNumber _ | textField _ | teacher | period
    | pickerDidSelectRow _ | teacherPickerDidSelectRow _ | addTeacher | editTeacherFirst _
    | editTeacherLast _ | nameField _ | cancelAddTeacher | ok | cancel => cases hwrite

end Flow

namespace Store

variable {store : Store}

/-- **A new course or teacher keeps the database sound**, under an id that is
in no collection yet. -/
theorem Sound.setData (hstore : store.Sound) {write : Option Write}
    (hadds : ∀ w, write = some w → Flow.Adds store w)
    (hfresh : ∀ w, write = some w → ∀ path, store ⟨path, w.docRef.documentID⟩ = none) :
    (store.setData write).Sound := by
  have hle : store ≤ store.setData write := le_setData fun w hw => hfresh w hw _
  refine ⟨?_, ?_, ?_⟩
  · intro schoolID documentID document hdoc
    rcases setData_cases hdoc with hnew | hold
    · have hadds := hadds _ hnew
      generalize hw : (⟨⟨courseListPath schoolID, documentID⟩, document⟩ : Write) = w at hadds
      cases hadds with
      | @course school course _ hid hbare hteacher hperiod =>
        obtain ⟨href, rfl⟩ := Write.mk.inj hw
        obtain ⟨hpath, rfl⟩ := DocumentReference.mk.inj href
        obtain rfl := courseListPath_inj hpath
        exact ⟨course, rfl, hid, rfl, hbare, hteacher.mono hle, hperiod.mono hle⟩
      | faculty _ _ =>
        obtain ⟨href, -⟩ := Write.mk.inj hw
        exact absurd (DocumentReference.mk.inj href).1 (courseListPath_ne_facultyPath _ _)
    · obtain ⟨course, hid, hschool, heq, hbare, hteacher, hperiod⟩ := hstore.course _ _ _ hold
      exact ⟨course, hid, hschool, heq, hbare, hteacher.mono hle, hperiod.mono hle⟩
  · intro schoolID documentID document hdoc
    rcases setData_cases hdoc with hnew | hold
    · have hadds := hadds _ hnew
      generalize hw : (⟨⟨facultyPath schoolID, documentID⟩, document⟩ : Write) = w at hadds
      cases hadds with
      | course _ _ _ _ _ =>
        obtain ⟨href, -⟩ := Write.mk.inj hw
        exact absurd (DocumentReference.mk.inj href).1.symm (courseListPath_ne_facultyPath _ _)
      | @faculty school teacher hschool hbare =>
        obtain ⟨href, rfl⟩ := Write.mk.inj hw
        obtain ⟨hpath, rfl⟩ := DocumentReference.mk.inj href
        obtain rfl := facultyPath_inj hpath
        exact ⟨teacher, rfl, rfl, hbare, school.listed, hschool.mono hle, rfl⟩
    · obtain ⟨teacher, hid, heq, hbare, school, hschool, hschoolID⟩ := hstore.faculty _ _ _ hold
      exact ⟨teacher, hid, heq, hbare, school, hschool.mono hle, hschoolID⟩
  · intro a b documentID ha hb
    obtain ⟨docA, ha⟩ := Option.ne_none_iff_exists'.mp ha
    obtain ⟨docB, hb⟩ := Option.ne_none_iff_exists'.mp hb
    rcases setData_cases ha with hnewA | holdA
    · rcases setData_cases hb with hnewB | holdB
      · rw [hnewA] at hnewB
        have hpath : courseListPath a = courseListPath b := by
          rw [Option.some.injEq, Write.mk.injEq, DocumentReference.mk.injEq] at hnewB
          exact hnewB.1.1
        exact courseListPath_inj hpath
      · rw [hfresh _ hnewA] at holdB
        cases holdB
    · rcases setData_cases hb with hnewB | holdB
      · rw [hfresh _ hnewB] at holdA
        cases holdA
      · refine hstore.unique a b documentID ?_ ?_
        · rw [holdA]
          exact Option.some_ne_none _
        · rw [holdB]
          exact Option.some_ne_none _

end Store

namespace Flow

variable {store : Store} {flow flow' : Flow} {e : Event}

/-- An id that is not in the database is on no screen. -/
theorem freshIds_of_firestore (hstore : store.Sound)
    (hreach : (signUp lower).Reaches (Backed store) flow) (hok : Firestore store flow e) :
    FreshIds flow e := by
  unfold FreshIds
  split
  next documentID =>
    intro screen hscreen course hcourse heq
    have hhas := published_of_reaches hstore hreach (.scheduled hscreen hcourse)
    unfold Store.HasCourse at hhas
    rw [heq, hok.fresh documentID rfl] at hhas
    cases hhas
  next => trivial

/-- The catalogue of an answer has distinct ids, as the database has. -/
theorem distinctCatalogues_of_firestore (hstore : store.Sound) (hok : Firestore store flow e) :
    DistinctCatalogues flow e := by
  unfold DistinctCatalogues
  split
  next k r =>
    intro request school hk hcall crsList hlist
    obtain ⟨docs, rfl, -⟩ := getCourseList_eq_some_iff.mp hlist
    have hdocs := hok.answers k docs request _ rfl hk (Call.collection?_of_catalogue? hcall)
    exact hstore.nodup_getCourseList hdocs hlist
  next => trivial

/-- What Firestore promises about a step, the database after it backs. -/
theorem backed_of_firestore (hstore : store.Sound)
    (hreach : (signUp lower).Reaches (Backed store) flow) (hok : Firestore store flow e)
    (hle : store ≤ store.setData (flow.write? e)) :
    Backed (store.setData (flow.write? e)) flow e := by
  refine ⟨?_, ?_, freshIds_of_firestore hstore hreach hok,
    distinctCatalogues_of_firestore hstore hok⟩
  · intro k docs request path he hk hpath
    exact (hok.answers k docs request path he hk hpath).mono (Store.collection_mono hle path)
  · intro write hwrite
    rw [hwrite]
    exact Store.setData_eq store write

end Flow

variable {ι : Type} [DecidableEq ι]

/-- **The clients taken apart.** In every state of every run the database is
sound, and each client is at the end of a run of its own in which every step
is backed by it. -/
theorem clients_backed {w : World Store ι Flow}
    (h : (cloud ι lower).Reaches (Machine.Admits Firestore) w) :
    w.store.Sound ∧ ∀ i, (signUp lower).Reaches (Backed w.store) (w.clients i) := by
  refine Machine.client_reaches (Q := Store.Sound) (R := Backed) ?_ ?_ ?_ h
  · intro store store' flow e hle hbacked
    exact hbacked.mono hle
  · exact fun store hstart => hstart
  · intro store flow e flow' hstore hreach hok hs
    have hle := Flow.le_setData hreach.reachable hok hs
    refine ⟨hle, ?_, Flow.backed_of_firestore hstore hreach hok hle⟩
    refine hstore.setData ?_ ?_
    · intro write hwrite
      exact Flow.adds_of_write? hstore hreach hs hwrite
    · intro write hwrite
      exact hok.fresh _ (Flow.documentID_of_write? hreach.reachable hs hwrite)

/-! ## Two clients -/

/-- A database with one school. -/
def morristownStore : Store := fun docRef =>
  if docRef = ⟨"schools", "mhs"⟩ then some morristownDocument else none

theorem morristownStore_sound : morristownStore.Sound := by
  refine Store.sound_of_unwritten ?_ ?_
  · intro schoolID documentID
    refine if_neg ?_
    intro heq
    exact courseListPath_ne_schools schoolID (DocumentReference.mk.inj heq).1
  · intro schoolID documentID
    refine if_neg ?_
    intro heq
    exact facultyPath_ne_schools schoolID (DocumentReference.mk.inj heq).1

/-- The event brings no document and creates none. -/
def Event.isPlain : Event → Bool
  | .answer _ (.documents (.documents docs)) => docs.isEmpty
  | e => e.documentID?.isNone

theorem documentID?_of_isPlain {e : Event} (h : e.isPlain = true) : e.documentID? = none := by
  unfold Event.isPlain at h
  split at h
  next => rfl
  next => exact Option.isNone_iff_eq_none.mp h

theorem firestore_of_isPlain {e : Event} (h : e.isPlain = true) (store : Store) (flow : Flow) :
    Firestore store flow e := by
  refine ⟨?_, ?_⟩
  · intro k docs request path he _ _
    subst he
    obtain rfl : docs = [] := List.isEmpty_iff.mp h
    exact ⟨[], List.nodup_nil, .nil⟩
  · intro documentID he
    rw [documentID?_of_isPlain h] at he
    cases he

/-- Two clients at the start. -/
def twoClients : World Store Bool Flow := ⟨morristownStore, fun _ => .launch⟩

/-- Events of one of them. -/
def eventsOf (client : Bool) (es : List Event) : List (Bool × Event) := es.map fun e => (client, e)

/-- Such events, if plain, are admissible in any state. -/
theorem admits_of_isPlain {client : Bool} {es : List Event}
    (h : es.all Event.isPlain = true) :
    ∀ e ∈ eventsOf client es, ∀ w, Machine.Admits Firestore w e := by
  intro e he w
  obtain ⟨event, hevent, rfl⟩ := List.mem_map.mp he
  exact firestore_of_isPlain (List.all_eq_true.mp h event hevent) _ _

/-- An answer that selects documents of the collection is admissible. -/
theorem admits_documents {ι : Type} {w : World Store ι Flow} {client : ι} {k : Nat} {path : String}
    {docs : List (Document Boxed)}
    (hpath : (w.clients client).requests[k]?.bind (·.call.collection?) = some path)
    (hdocs : (w.store.collection path).Selects docs) :
    Machine.Admits Firestore w (client, .documents k docs) := by
  refine ⟨?_, ?_⟩
  · intro k' docs' request' path' he hk' hpath'
    cases he
    rw [hk', Option.bind_some, hpath'] at hpath
    obtain rfl := Option.some.inj hpath
    exact hdocs
  · intro documentID he
    cases he

/-- A submission with a new id is admissible. -/
theorem admits_submission {ι : Type} {w : World Store ι Flow} {client : ι}
    {ae : AddClassViewController.Event}
    (hfresh : ∀ documentID, Event.documentID? (.input (.addClass ae)) = some documentID →
      ∀ path, w.store ⟨path, documentID⟩ = none) :
    Machine.Admits Firestore w (client, .input (.addClass ae)) := by
  refine ⟨?_, hfresh⟩
  intro k docs request path he
  cases he

/-- The teacher and the course that one of them submits. -/
def newKappel : Faculty where
  account := none
  id := "t1"
  lastName := "Kappel"
  firstName := some ""
  title := .Mr
  schedule := none

def newLatin : Course where
  displayName := "Latin"
  id := "c1"
  teacher := newKappel
  schoolId := "mhs"
  period := 3
  classroom := some ""

/-- From the school list to the popup of a form without staff. -/
def toPopup : List Event :=
  [ .input (.schoolSelector .continueAction), .documents 1 [],
    .input (.chooseClasses .viewDidAppear), .input (.chooseClasses .addClass), .documents 1 [],
    .input (.addClass .addTeacher), .input (.addClass (.editTeacherLast "Kappel")) ]

def fillIn : List Event :=
  [ .input (.addClass (.editClassTitle "Latin")), .input (.addClass .teacher),
    .input (.addClass (.pickerDidSelectRow 0)), .input (.addClass .period),
    .input (.addClass (.pickerDidSelectRow 2)) ]

/-- One of them has the list of schools, -/
def listed : World Store Bool Flow :=
  (cloud Bool String.toLower).after
    ((cloud Bool String.toLower).after twoClients (eventsOf true register))
    [(true, .documents 0 [morristownDocument])]

/-- has submitted a teacher and filled in the form, -/
def filled : World Store Bool Flow :=
  (cloud Bool String.toLower).after
    ((cloud Bool String.toLower).after
      ((cloud Bool String.toLower).after listed (eventsOf true toPopup))
      [(true, .input (.addClass (.endAddTeacher "t1")))])
    (eventsOf true fillIn)

/-- and has submitted it. -/
def offered : World Store Bool Flow :=
  (cloud Bool String.toLower).after filled [(true, .input (.addClass (.addClass "c1")))]

/-- The other one has the list of schools, too, and waits for the catalogue. -/
def submitted : World Store Bool Flow :=
  (cloud Bool String.toLower).after
    ((cloud Bool String.toLower).after
      ((cloud Bool String.toLower).after offered (eventsOf false register))
      [(false, .documents 0 [morristownDocument])])
    (eventsOf false [.input (.schoolSelector .continueAction)])

/-- The catalogue arrives, -/
def shown : World Store Bool Flow :=
  (cloud Bool String.toLower).after
    ((cloud Bool String.toLower).after submitted [(false, .documents 1 [newLatin.document])])
    (eventsOf false [.input (.chooseClasses .viewDidAppear)])

/-- and the other one takes the course. -/
def taken : World Store Bool Flow :=
  (cloud Bool String.toLower).after shown
    (eventsOf false [.input (.chooseClasses (.didSelectRowAt 0))])

theorem filled_store : filled.store =
    morristownStore.set (newKappel.write "mhs").docRef newKappel.document := rfl

theorem submitted_store : submitted.store =
    (morristownStore.set (newKappel.write "mhs").docRef newKappel.document).set
      (newLatin.write "mhs").docRef newLatin.document := rfl

/-- A query may get one of the documents. -/
theorem selects_singleton {store : Store} {path documentID : String} {document : Document Boxed}
    (h : store ⟨path, documentID⟩ = some document) :
    (store.collection path).Selects [document] :=
  ⟨[documentID], List.nodup_singleton _, .cons h .nil⟩

theorem morristownDocument_selects {store : Store}
    (h : store ⟨"schools", "mhs"⟩ = some morristownDocument) :
    (store.collection "schools").Selects [morristownDocument] :=
  selects_singleton h

theorem twoClients_reaches :
    (cloud Bool String.toLower).Reaches (Machine.Admits Firestore) twoClients :=
  .init ⟨morristownStore_sound, fun _ => rfl⟩

theorem filled_reaches :
    (cloud Bool String.toLower).Reaches (Machine.Admits Firestore) filled := by
  have h₁ : (cloud Bool String.toLower).Reaches (Machine.Admits Firestore) listed := by
    refine (twoClients_reaches.after (admits_of_isPlain rfl)).after_singleton ?_
    exact admits_documents rfl (morristownDocument_selects rfl)
  refine Machine.Reaches.after ?_ (admits_of_isPlain rfl)
  refine (h₁.after (admits_of_isPlain rfl)).after_singleton (admits_submission ?_)
  intro documentID hid path
  obtain rfl := Option.some.inj hid
  exact if_neg fun heq => absurd (DocumentReference.mk.inj heq).2 (by decide)

/-- The id of the course is a new one. -/
theorem filled_admits :
    Machine.Admits Firestore filled (true, .input (.addClass (.addClass "c1"))) := by
  refine admits_submission ?_
  intro documentID hid path
  obtain rfl := Option.some.inj hid
  rw [filled_store, Table.set_of_ne]
  · exact if_neg fun heq => absurd (DocumentReference.mk.inj heq).2 (by decide)
  · exact fun heq => absurd (DocumentReference.mk.inj heq).2 (by decide)

theorem submitted_reaches :
    (cloud Bool String.toLower).Reaches (Machine.Admits Firestore) submitted := by
  have h : (cloud Bool String.toLower).Reaches (Machine.Admits Firestore) offered :=
    filled_reaches.after_singleton filled_admits
  refine Machine.Reaches.after ?_ (admits_of_isPlain rfl)
  refine (h.after (admits_of_isPlain rfl)).after_singleton ?_
  exact admits_documents rfl (morristownDocument_selects rfl)

/-- The whole catalogue after the submission. -/
theorem submitted_lists :
    (submitted.store.collection (courseListPath "mhs")).Lists [newLatin.document] := by
  refine ⟨["c1"], List.nodup_singleton _, .cons rfl .nil, ?_⟩
  intro documentID document hdoc
  rw [submitted_store] at hdoc
  rcases Table.set_cases hdoc with ⟨heq, -⟩ | hdoc
  · rw [(DocumentReference.mk.inj heq).2]
    exact List.mem_singleton_self _
  · rcases Table.set_cases hdoc with ⟨heq, -⟩ | hdoc
    · exact absurd (DocumentReference.mk.inj heq).1 (courseListPath_ne_facultyPath _ _)
    · obtain ⟨heq, -⟩ := Option.ite_none_right_eq_some.mp hdoc
      exact absurd (DocumentReference.mk.inj heq).1 (courseListPath_ne_schools _)

theorem shown_reaches :
    (cloud Bool String.toLower).Reaches (Machine.Admits Firestore) shown := by
  refine Machine.Reaches.after ?_ (admits_of_isPlain rfl)
  refine submitted_reaches.after_singleton ?_
  exact admits_documents rfl submitted_lists.selects

theorem taken_reaches :
    (cloud Bool String.toLower).Reaches (Machine.Admits Firestore) taken :=
  shown_reaches.after (admits_of_isPlain rfl)

end Scholarli
