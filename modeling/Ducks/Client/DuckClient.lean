import Ducks.Api.Webhooks
import Ducks.Errors
import Ducks.Lib.Loop

namespace Ducks.Client

open Ducks.Schema Ducks.Api Ducks.Errors Ducks.Lib

-- The duck client of client/client.go: a client.Client for the kinds of one
-- DuckType, which finds the Ready Ducks of the type and fans each call out to the
-- kinds they mark.

-- An object of a duck-backed kind; the client reads and writes its kind only
structure Object where
  gvk : GroupVersionKind
  name : String
deriving DecidableEq, Repr

structure ObjectList where
  gvk : GroupVersionKind
  items : List Object
deriving DecidableEq, Repr

-- client.ListOption and client.DeleteAllOfOption, passed through untouched
structure ListOptions where
  namespaceName : String
  labelSelector : List (String × String)
deriving DecidableEq, Repr

structure DeleteAllOfOptions where
  namespaceName : String
  labelSelector : List (String × String)
deriving DecidableEq, Repr

-- The calls the duck client makes on the reconcilers.Config it wraps, whose client
-- belongs to controller-runtime. A DuckType is read by name and a DuckList is
-- listed into Ducks; an object is read into the object passed in, whose kind
-- selects the API. convert is duck.Convert of reconciler.io/runtime, a JSON round
-- trip from the aggregate into the caller's list: the list it leaves and its
-- error. json.Unmarshal writes what it can before it reports a type error, so the
-- list may be written when Convert fails.
structure Config where
  get : String → Except Error DuckType
  listDucks : GroupVersionKind → Except Error (List Duck)
  trackAndListDucks : GroupVersionKind → Except Error (List Duck)
  getObject : Object → String → Except Error Object
  trackAndGetObject : Object → String → Except Error Object
  list : GroupVersionKind → ListOptions → Except Error (List Object)
  trackAndList : GroupVersionKind → ListOptions → Except Error (List Object)
  deleteAllOf : Object → DeleteAllOfOptions → Except Error Unit
  convert : List Object → ObjectList → ObjectList × Option Error

structure DuckClient where
  client : Config
  duckType : String

def errUnknownDuckType : Error := .new "unknown duck type"

def errUnknownDuck : Error := .new "unknown duck"

def errDuckTypeNotReady : Error := .new "duck type is not ready"

def isReady (conditions : List Condition) : Bool :=
  conditionIsTrue (getCondition conditions conditionReady)

-- The DuckList of a DuckType is served at <group>/v1
def duckTypeListGVK (t : DuckType) : GroupVersionKind :=
  { group := t.spec.group, version := "v1", kind := t.spec.listKind }

-- One turn of the selection loop of ducks: skip a Duck that is not Ready, keep
-- one that the GroupKind selects by its kind or its list kind.
def ducksStep (duckGK : GroupKind) (ducks : List Duck) (duck : Duck) : List Duck :=
  if !isReady duck.conditions then ducks
  else if duckGK.empty then ducks ++ [duck]
  else if duckGK.group = duck.spec.group ∧ duckGK.kind = duck.spec.kind then ducks ++ [duck]
  else if duckGK.group = duck.spec.group ∧ duckGK.kind = duck.spec.kind ++ "List" then ducks ++ [duck]
  else ducks

def DuckClient.ducks (c : DuckClient) (duckGK : GroupKind) (track : Bool) :
    Except Error (List Duck) := do
  let duckType ← match c.client.get c.duckType with
    | .error err => if isNotFound err then .error errUnknownDuckType else .error err
    | .ok duckType => .ok duckType
  let duckType := duckType.default
  if !isReady duckType.conditions then .error errDuckTypeNotReady
  let items ← (if track then c.client.trackAndListDucks else c.client.listDucks) (duckTypeListGVK duckType)
  let ducks := items.foldl (ducksStep duckGK) []
  if !duckGK.empty && ducks.length = 0 then .error errUnknownDuck
  pure ducks

-- duckClient.duck: exactly one Duck must match
def DuckClient.duck (c : DuckClient) (duckGK : GroupKind) (track : Bool) : Except Error Duck := do
  let ducks ← c.ducks duckGK track
  match ducks with
  | [duck] => pure duck
  | _ => .error errUnknownDuck

-- duckClient.setDuckVersion keeps the object's group and kind and takes the Duck's version
def DuckClient.setDuckVersion (c : DuckClient) (obj : Object) (track : Bool) :
    Except Error Object := do
  let gvk := obj.gvk
  let duck ← c.duck gvk.groupKind track
  pure { obj with gvk := { gvk with version := duck.spec.version } }

-- What Get and TrackAndGet leave behind: the caller's object, the object handed to
-- the underlying read if one was made, and the error.
structure GetResult where
  obj : Object
  issued : Option Object
  err : Option Error
deriving DecidableEq, Repr

-- duckClient.Get and TrackAndGet are one body that differs in the tracking flag
-- and the underlying read. setDuckVersion writes the version into the caller's
-- object before the read, so a failed read leaves it with the new version.
def DuckClient.getWith (c : DuckClient) (track : Bool)
    (getFn : Object → String → Except Error Object) (key : String) (obj : Object) : GetResult :=
  match c.setDuckVersion obj track with
  | .error err => { obj := obj, issued := none, err := some err }
  | .ok versioned =>
    match getFn versioned key with
    | .ok read => { obj := read, issued := some versioned, err := none }
    | .error err => { obj := versioned, issued := some versioned, err := some err }

def DuckClient.get (c : DuckClient) (key : String) (obj : Object) : GetResult :=
  c.getWith false c.client.getObject key obj

def DuckClient.trackAndGet (c : DuckClient) (key : String) (obj : Object) : GetResult :=
  c.getWith true c.client.trackAndGetObject key obj

-- The kind of the per-duck list that List and TrackAndList read
def duckListGVK (duck : Duck) : GroupVersionKind :=
  { group := duck.spec.group, version := duck.spec.version, kind := duck.spec.kind ++ "List" }

-- List and TrackAndList are one body that differs in the tracking flag and in the
-- underlying list call. The caller's list is written only by the final Convert.
def DuckClient.listWith (c : DuckClient) (track : Bool)
    (listFn : GroupVersionKind → ListOptions → Except Error (List Object))
    (list : ObjectList) (opts : ListOptions) : ObjectList × Option Error :=
  let result := do
    let ducks ← c.ducks list.gvk.groupKind track
    appendEach (fun duck => listFn (duckListGVK duck) opts) [] ducks
  match result with
  | .ok aggregate => c.client.convert aggregate list
  | .error err => (list, some err)

def DuckClient.list (c : DuckClient) (list : ObjectList) (opts : ListOptions) :
    ObjectList × Option Error :=
  c.listWith false c.client.list list opts

def DuckClient.trackAndList (c : DuckClient) (list : ObjectList) (opts : ListOptions) :
    ObjectList × Option Error :=
  c.listWith true c.client.trackAndList list opts

structure DeleteAllOfResult where
  obj : Object
  issued : List Object
  err : Option Error
deriving DecidableEq, Repr

-- The copy of the object that DeleteAllOf issues for one Duck, of the Duck's kind
def duckCopy (obj : Object) (duck : Duck) : Object :=
  { obj with gvk := { group := duck.spec.group, version := duck.spec.version, kind := duck.spec.kind } }

def DuckClient.deleteAllOf (c : DuckClient) (obj : Object) (opts : DeleteAllOfOptions) :
    DeleteAllOfResult :=
  match c.ducks obj.gvk.groupKind false with
  | .error err => { obj := obj, issued := [], err := some err }
  | .ok ducks =>
    let run := runUntilError (fun copy => c.client.deleteAllOf copy opts) (ducks.map (duckCopy obj))
    { obj := obj, issued := run.1, err := run.2 }

-- duckClient.GroupVersionKindFor works on a copy of the object
def DuckClient.groupVersionKindFor (c : DuckClient) (obj : Object) :
    Except Error GroupVersionKind := do
  let copy ← c.setDuckVersion obj false
  pure copy.gvk

section Selection

-- The selection the loop of ducks makes, as a filter: a Duck matches a GroupKind
-- when the GroupKind is empty, or names the Duck's group and its kind or list kind.
def matchesGroupKind (q : GroupKind) (d : Duck) : Bool :=
  q.empty || (q.group == d.spec.group && (q.kind == d.spec.kind || q.kind == d.spec.kind ++ "List"))

def selectedDucks (q : GroupKind) (items : List Duck) : List Duck :=
  items.filter fun d => isReady d.conditions && matchesGroupKind q d

theorem ducksStep_eq (q : GroupKind) (acc : List Duck) (d : Duck) :
    ducksStep q acc d =
      if isReady d.conditions && matchesGroupKind q d then acc ++ [d] else acc := by
  unfold ducksStep matchesGroupKind
  by_cases hr : isReady d.conditions <;> by_cases he : q.empty <;> simp [hr, he]
  -- a Ready Duck under a non-empty GroupKind: the two kind tests are the two
  -- branches of the loop body
  split_ifs with h₁ h₂ <;> simp_all

theorem foldl_ducksStep (q : GroupKind) (items acc : List Duck) :
    items.foldl (ducksStep q) acc = acc ++ selectedDucks q items := by
  induction items generalizing acc with
  | nil => simp [selectedDucks]
  | cons d items ih =>
    rw [List.foldl_cons, ih, ducksStep_eq]
    unfold selectedDucks
    split_ifs with h <;> simp [h]

theorem mem_selectedDucks {q : GroupKind} {items : List Duck} {d : Duck} :
    d ∈ selectedDucks q items ↔ d ∈ items ∧ isReady d.conditions = true ∧ matchesGroupKind q d = true := by
  simp [selectedDucks]

-- Under a non-empty GroupKind a Duck is selected by its group and by its kind or list kind
theorem matchesGroupKind_of_not_empty {q : GroupKind} {d : Duck} (hq : q.empty = false)
    (h : matchesGroupKind q d = true) :
    q.group = d.spec.group ∧ (q.kind = d.spec.kind ∨ q.kind = d.spec.kind ++ "List") := by
  simpa [matchesGroupKind, hq] using h

-- So a GroupVersionKind that selects a Duck by a non-empty GroupKind becomes, under
-- the Duck's version, the Duck's own or its list's
theorem withVersion_of_selected {gvk : GroupVersionKind} {items : List Duck} {d : Duck}
    (hd : d ∈ selectedDucks gvk.groupKind items) (hq : gvk.groupKind.empty = false) :
    isReady d.conditions = true ∧
      ({ gvk with version := d.spec.version } = ⟨d.spec.group, d.spec.version, d.spec.kind⟩ ∨
        { gvk with version := d.spec.version } = ⟨d.spec.group, d.spec.version, d.spec.kind ++ "List"⟩) := by
  obtain ⟨-, hready, hm⟩ := mem_selectedDucks.mp hd
  obtain ⟨hg, hk⟩ := matchesGroupKind_of_not_empty hq hm
  refine ⟨hready, ?_⟩
  -- the group and kind are kept, and the match fixed them to the Duck's
  rcases hk with hk | hk
  · left
    show (⟨gvk.group, d.spec.version, gvk.kind⟩ : GroupVersionKind) = _
    rw [show gvk.group = d.spec.group from hg, show gvk.kind = d.spec.kind from hk]
  · right
    show (⟨gvk.group, d.spec.version, gvk.kind⟩ : GroupVersionKind) = _
    rw [show gvk.group = d.spec.group from hg, show gvk.kind = d.spec.kind ++ "List" from hk]

end Selection

section Calls

variable (c : DuckClient)

@[simp] theorem DuckType.default_conditions (t : DuckType) : t.default.conditions = t.conditions := rfl

-- What ducks returns, by the first call of the client that decides it
theorem ducks_of_get_error {e : Error} (q : GroupKind) (track : Bool)
    (h : c.client.get c.duckType = .error e) :
    c.ducks q track = .error (if isNotFound e then errUnknownDuckType else e) := by
  by_cases hn : isNotFound e <;> simp [DuckClient.ducks, h, hn, bind, Except.bind]

theorem ducks_of_not_ready {t : DuckType} (q : GroupKind) (track : Bool)
    (h : c.client.get c.duckType = .ok t) (hr : isReady t.conditions = false) :
    c.ducks q track = .error errDuckTypeNotReady := by
  simp [DuckClient.ducks, h, hr, bind, Except.bind]

theorem ducks_of_items {t : DuckType} {items : List Duck} (q : GroupKind) (track : Bool)
    (h : c.client.get c.duckType = .ok t) (hr : isReady t.conditions = true)
    (hl : (if track then c.client.trackAndListDucks else c.client.listDucks)
      (duckTypeListGVK t.default) = .ok items) :
    c.ducks q track =
      if q.empty = false ∧ selectedDucks q items = [] then .error errUnknownDuck
      else .ok (selectedDucks q items) := by
  simp only [DuckClient.ducks, h, hl, DuckType.default_conditions, hr, foldl_ducksStep,
    List.nil_append, bind, Except.bind]
  by_cases he : q.empty <;> by_cases hs : selectedDucks q items = [] <;> simp [he, hs, pure, Except.pure]

theorem duck_of_ducks_error {q : GroupKind} {track : Bool} {e : Error} (h : c.ducks q track = .error e) :
    c.duck q track = .error e := by
  simp [DuckClient.duck, h, bind, Except.bind]

-- duck takes the one Duck ducks returns, and fails on zero or several
theorem duck_of_ducks_single {q : GroupKind} {track : Bool} {d : Duck} (h : c.ducks q track = .ok [d]) :
    c.duck q track = .ok d := by
  simp only [DuckClient.duck, h, bind, Except.bind, pure, Except.pure]

theorem duck_of_ducks_not_single {q : GroupKind} {track : Bool} {ducks : List Duck}
    (h : c.ducks q track = .ok ducks) (hn : ∀ d, ducks ≠ [d]) : c.duck q track = .error errUnknownDuck := by
  simp only [DuckClient.duck, h, bind, Except.bind]

-- GroupVersionKindFor keeps the object's group and kind and takes the Duck's version
theorem groupVersionKindFor_eq (obj : Object) :
    c.groupVersionKindFor obj =
      (c.duck obj.gvk.groupKind false).map fun d => { obj.gvk with version := d.spec.version } := by
  simp only [DuckClient.groupVersionKindFor, DuckClient.setDuckVersion, bind, Except.bind, pure,
    Except.pure]
  cases c.duck obj.gvk.groupKind false <;> rfl

section Get

variable {track : Bool} {getFn : Object → String → Except Error Object} {key : String} {obj : Object}

-- A failed lookup returns its error before any read, and the caller's object is untouched
theorem getWith_of_duck_error {e : Error} (h : c.duck obj.gvk.groupKind track = .error e) :
    c.getWith track getFn key obj = { obj := obj, issued := none, err := some e } := by
  simp [DuckClient.getWith, DuckClient.setDuckVersion, h, bind, Except.bind]

-- Otherwise the one read is issued for the object with the Duck's version
theorem getWith_of_duck_ok {d : Duck} (h : c.duck obj.gvk.groupKind track = .ok d) :
    (c.getWith track getFn key obj).issued =
      some { obj with gvk := { obj.gvk with version := d.spec.version } } := by
  simp only [DuckClient.getWith, DuckClient.setDuckVersion, h, bind, Except.bind, pure, Except.pure]
  split <;> rfl

end Get

variable {track : Bool} {listFn : GroupVersionKind → ListOptions → Except Error (List Object)}
  {L : ObjectList} {opts : ListOptions}

theorem listWith_of_ducks_error {e : Error} (h : c.ducks L.gvk.groupKind track = .error e) :
    c.listWith track listFn L opts = (L, some e) := by
  simp [DuckClient.listWith, h, bind, Except.bind]

theorem listWith_of_ducks_ok {ducks : List Duck} {g : Duck → List Object}
    (h : c.ducks L.gvk.groupKind track = .ok ducks)
    (hl : ∀ d ∈ ducks, listFn (duckListGVK d) opts = .ok (g d)) :
    c.listWith track listFn L opts = c.client.convert (ducks.flatMap g) L := by
  simp [DuckClient.listWith, h, bind, Except.bind, appendEach_of_ok hl]

-- A failed per-duck list returns its error before Convert, with the caller's list untouched
theorem listWith_of_list_error {pre post : List Duck} {d : Duck} {e : Error}
    (h : c.ducks L.gvk.groupKind track = .ok (pre ++ d :: post))
    (hpre : ∀ d' ∈ pre, ∃ items, listFn (duckListGVK d') opts = .ok items)
    (hd : listFn (duckListGVK d) opts = .error e) :
    c.listWith track listFn L opts = (L, some e) := by
  simp [DuckClient.listWith, h, bind, Except.bind, appendEach_of_error hpre hd]

variable {obj : Object} {dopts : DeleteAllOfOptions}

@[simp] theorem deleteAllOf_obj : (c.deleteAllOf obj dopts).obj = obj := by
  unfold DuckClient.deleteAllOf
  split <;> rfl

theorem deleteAllOf_of_ducks_error {e : Error} (h : c.ducks obj.gvk.groupKind false = .error e) :
    (c.deleteAllOf obj dopts).issued = [] ∧ (c.deleteAllOf obj dopts).err = some e := by
  simp [DuckClient.deleteAllOf, h]

theorem deleteAllOf_of_ducks_ok {ducks : List Duck} (h : c.ducks obj.gvk.groupKind false = .ok ducks) :
    c.deleteAllOf obj dopts =
      { obj := obj,
        issued := (runUntilError (fun copy => c.client.deleteAllOf copy dopts) (ducks.map (duckCopy obj))).1,
        err := (runUntilError (fun copy => c.client.deleteAllOf copy dopts) (ducks.map (duckCopy obj))).2 } := by
  simp [DuckClient.deleteAllOf, h]

end Calls

section Cluster

-- A cluster as the duck client sees it: the DuckTypes by name, the Ducks each
-- DuckList holds, the answer to each list of a kind under its options, the objects
-- by kind and name, and how each DeleteAllOf is answered; and duck.Convert.
structure Cluster where
  duckTypes : String → Option DuckType
  duckLists : GroupVersionKind → List Duck
  objects : GroupVersionKind → ListOptions → Except Error (List Object)
  stored : GroupVersionKind → String → Option Object
  deleteAllOf : Object → DeleteAllOfOptions → Except Error Unit
  convert : List Object → ObjectList → ObjectList × Option Error

-- apierrs.NewNotFound
def notFound (resource name : String) : Error :=
  .status { reason := .notFound, code := 404, message := resource ++ " \"" ++ name ++ "\" not found",
            details := some { name := name, kind := resource } }

@[simp] theorem isNotFound_notFound (resource name : String) : isNotFound (notFound resource name) = true :=
  rfl

-- The client of the manager on that cluster; tracking a read changes nothing it reads.
def Cluster.config (s : Cluster) : Config where
  get name :=
    match s.duckTypes name with
    | some t => .ok t
    | none => .error (notFound "ducktypes.duck.reconciler.io" name)
  listDucks gvk := .ok (s.duckLists gvk)
  trackAndListDucks gvk := .ok (s.duckLists gvk)
  getObject obj key :=
    match s.stored obj.gvk key with
    | some o => .ok o
    | none => .error (notFound obj.gvk.kind key)
  trackAndGetObject obj key :=
    match s.stored obj.gvk key with
    | some o => .ok o
    | none => .error (notFound obj.gvk.kind key)
  list := s.objects
  trackAndList := s.objects
  deleteAllOf := s.deleteAllOf
  convert := s.convert

-- client.New(duckType, config)
def Cluster.duckClient (s : Cluster) (name : String) : DuckClient :=
  { client := s.config, duckType := name }

-- The Ducks a GroupKind stands for on a cluster, as the client's contract states
-- it: the DuckType must exist and be Ready, and a non-empty GroupKind must match
-- one of its Ready Ducks.
def Cluster.resolveDucks (s : Cluster) (name : String) (q : GroupKind) : Except Error (List Duck) :=
  match s.duckTypes name with
  | none => .error errUnknownDuckType
  | some t =>
    if isReady t.conditions then
      let ducks := selectedDucks q (s.duckLists (duckTypeListGVK t.default))
      if q.empty = false ∧ ducks = [] then .error errUnknownDuck else .ok ducks
    else .error errDuckTypeNotReady

variable (s : Cluster) (name : String)

-- The duck client refines the contract: listing Ducks, tracked or not, resolves
-- every GroupKind as resolveDucks does.
theorem ducks_on_cluster (q : GroupKind) (track : Bool) :
    (s.duckClient name).ducks q track = s.resolveDucks name q := by
  cases ht : s.duckTypes name with
  | none =>
    have hget : (s.duckClient name).client.get (s.duckClient name).duckType =
        .error (notFound "ducktypes.duck.reconciler.io" name) := by
      simp [Cluster.duckClient, Cluster.config, ht]
    rw [ducks_of_get_error _ q track hget, if_pos (isNotFound_notFound _ _)]
    simp [Cluster.resolveDucks, ht]
  | some t =>
    have hget : (s.duckClient name).client.get (s.duckClient name).duckType = .ok t := by
      simp [Cluster.duckClient, Cluster.config, ht]
    cases hr : isReady t.conditions with
    | false => simp [ducks_of_not_ready _ q track hget hr, Cluster.resolveDucks, ht, hr]
    | true =>
      have hl : (if track then (s.duckClient name).client.trackAndListDucks
          else (s.duckClient name).client.listDucks) (duckTypeListGVK t.default) =
          .ok (s.duckLists (duckTypeListGVK t.default)) := by
        cases track <;> rfl
      simp [ducks_of_items _ q track hget hr hl, Cluster.resolveDucks, ht, hr]

theorem listWith_on_cluster (track : Bool)
    (listFn : GroupVersionKind → ListOptions → Except Error (List Object))
    (hfn : ∀ gvk opts, listFn gvk opts = s.objects gvk opts) (L : ObjectList) (opts : ListOptions) :
    (∀ err, s.resolveDucks name L.gvk.groupKind = .error err →
      (s.duckClient name).listWith track listFn L opts = (L, some err)) ∧
    (∀ ducks, s.resolveDucks name L.gvk.groupKind = .ok ducks →
      (∀ pre d post err, ducks = pre ++ d :: post →
        (∀ d' ∈ pre, ∃ items, s.objects (duckListGVK d') opts = .ok items) →
        s.objects (duckListGVK d) opts = .error err →
        (s.duckClient name).listWith track listFn L opts = (L, some err)) ∧
      (∀ items : Duck → List Object, (∀ d ∈ ducks, s.objects (duckListGVK d) opts = .ok (items d)) →
        (s.duckClient name).listWith track listFn L opts = s.convert (ducks.flatMap items) L)) := by
  have hducks := ducks_on_cluster s name L.gvk.groupKind track
  refine ⟨fun err hr => listWith_of_ducks_error _ (hducks.trans hr), fun ducks hr => ⟨?_, ?_⟩⟩
  · rintro pre d post err rfl hpre hd
    apply listWith_of_list_error _ (hducks.trans hr)
    · intro d' hd'
      rw [hfn]
      exact hpre d' hd'
    · rw [hfn]
      exact hd
  · intro items hitems
    exact listWith_of_ducks_ok _ (hducks.trans hr) (fun d hd => (hfn _ _).trans (hitems d hd))

-- List resolves the Ducks as the contract says and fails with the lookup's error, or
-- with the first failed per-duck list, before it writes the caller's list; otherwise
-- it leaves what duck.Convert makes of the concatenated items, error included.
-- TrackAndList does the same, and DeleteAllOf never writes its object and issues one
-- DeleteAllOf per Duck, in order, up to the first that fails.
theorem duckClient_list_spec (L : ObjectList) (opts : ListOptions) (obj : Object)
    (dopts : DeleteAllOfOptions) :
    (∀ err, s.resolveDucks name L.gvk.groupKind = .error err →
      (s.duckClient name).list L opts = (L, some err)) ∧
    (∀ ducks, s.resolveDucks name L.gvk.groupKind = .ok ducks →
      (∀ pre d post err, ducks = pre ++ d :: post →
        (∀ d' ∈ pre, ∃ items, s.objects (duckListGVK d') opts = .ok items) →
        s.objects (duckListGVK d) opts = .error err →
        (s.duckClient name).list L opts = (L, some err)) ∧
      (∀ items : Duck → List Object, (∀ d ∈ ducks, s.objects (duckListGVK d) opts = .ok (items d)) →
        (s.duckClient name).list L opts = s.convert (ducks.flatMap items) L)) ∧
    (s.duckClient name).trackAndList L opts = (s.duckClient name).list L opts ∧
    ((s.duckClient name).deleteAllOf obj dopts).obj = obj ∧
    (∀ err, s.resolveDucks name obj.gvk.groupKind = .error err →
      ((s.duckClient name).deleteAllOf obj dopts).issued = [] ∧
      ((s.duckClient name).deleteAllOf obj dopts).err = some err) ∧
    (∀ ducks, s.resolveDucks name obj.gvk.groupKind = .ok ducks →
      let copies := ducks.map fun d =>
        { obj with gvk := { group := d.spec.group, version := d.spec.version, kind := d.spec.kind } }
      ((s.duckClient name).deleteAllOf obj dopts).issued <+: copies ∧
      (((s.duckClient name).deleteAllOf obj dopts).err = none →
        ((s.duckClient name).deleteAllOf obj dopts).issued = copies) ∧
      (∀ e, ((s.duckClient name).deleteAllOf obj dopts).err = some e →
        ∃ pre x, ((s.duckClient name).deleteAllOf obj dopts).issued = pre ++ [x] ∧
          (∀ y ∈ pre, s.deleteAllOf y dopts = .ok ()) ∧ s.deleteAllOf x dopts = .error e)) := by
  have hlist := listWith_on_cluster s name false (s.duckClient name).client.list (fun _ _ => rfl) L opts
  -- TrackAndList reads the cluster's lists as List does, so the two agree
  have htrack : (s.duckClient name).trackAndList L opts = (s.duckClient name).list L opts := rfl
  have hducks := ducks_on_cluster s name obj.gvk.groupKind false
  refine ⟨hlist.1, hlist.2, htrack, deleteAllOf_obj _, ?_, ?_⟩
  · intro err hr
    exact deleteAllOf_of_ducks_error _ (hducks.trans hr)
  · intro ducks hr
    rw [deleteAllOf_of_ducks_ok _ (hducks.trans hr)]
    refine ⟨runUntilError_isPrefix_self _, runUntilError_of_none, fun e he => runUntilError_of_some he⟩

-- Under a Ready DuckType, duck finds the one selected Ducks, tracked or not
theorem duck_on_cluster {t : DuckType} (ht : s.duckTypes name = some t) (hr : isReady t.conditions = true)
    (q : GroupKind) (track : Bool) :
    (∀ d, selectedDucks q (s.duckLists (duckTypeListGVK t.default)) = [d] →
      (s.duckClient name).duck q track = .ok d) ∧
    ((∀ d, selectedDucks q (s.duckLists (duckTypeListGVK t.default)) ≠ [d]) →
      (s.duckClient name).duck q track = .error errUnknownDuck) := by
  have hducks := ducks_on_cluster s name q track
  simp only [Cluster.resolveDucks, ht, hr, if_true] at hducks
  constructor
  · intro d hd
    rw [hd, if_neg (fun h => List.cons_ne_nil d [] h.2)] at hducks
    exact duck_of_ducks_single _ hducks
  · intro hn
    split_ifs at hducks
    · exact duck_of_ducks_error _ hducks
    · exact duck_of_ducks_not_single _ hducks hn

-- GroupVersionKindFor succeeds exactly when the object's GroupKind selects one
-- Ready Duck, and then keeps the object's group and kind under the Duck's version
theorem groupVersionKindFor_on_cluster {t : DuckType} (ht : s.duckTypes name = some t)
    (hr : isReady t.conditions = true) (o : Object) (gvk : GroupVersionKind) :
    (s.duckClient name).groupVersionKindFor o = .ok gvk ↔
      ∃ d, selectedDucks o.gvk.groupKind (s.duckLists (duckTypeListGVK t.default)) = [d] ∧
        gvk = { o.gvk with version := d.spec.version } := by
  have hduck := duck_on_cluster s name ht hr o.gvk.groupKind false
  rw [groupVersionKindFor_eq]
  constructor
  · intro h
    by_cases hs : ∃ d, selectedDucks o.gvk.groupKind (s.duckLists (duckTypeListGVK t.default)) = [d]
    · obtain ⟨d, hd⟩ := hs
      rw [hduck.1 d hd] at h
      exact ⟨d, hd, (Except.ok.inj h).symm⟩
    · rw [hduck.2 (not_exists.mp hs)] at h
      cases h
  · rintro ⟨d, hd, rfl⟩
    rw [hduck.1 d hd]
    rfl

-- The kind GroupVersionKindFor normalises to is, under a non-empty GroupKind, the
-- selected Duck's kind or list kind, while the empty GroupKind selects every Ready
-- Duck. Get and TrackAndGet fail with the lookup's error before any read, or read
-- once at that same kind.
theorem duckClient_normalizes_gvk (t : DuckType) (ht : s.duckTypes name = some t)
    (hr : isReady t.conditions = true) (o : Object) (key : String) :
    let sel := selectedDucks o.gvk.groupKind (s.duckLists (duckTypeListGVK t.default))
    (∀ gvk, (s.duckClient name).groupVersionKindFor o = .ok gvk ↔
      ∃ d, sel = [d] ∧ gvk = { o.gvk with version := d.spec.version }) ∧
    ((∀ d, sel ≠ [d]) → (s.duckClient name).groupVersionKindFor o = .error errUnknownDuck) ∧
    (∀ d, sel = [d] → o.gvk.groupKind.empty = false →
      isReady d.conditions = true ∧
      ({ o.gvk with version := d.spec.version } = ⟨d.spec.group, d.spec.version, d.spec.kind⟩ ∨
        { o.gvk with version := d.spec.version } = ⟨d.spec.group, d.spec.version, d.spec.kind ++ "List"⟩)) ∧
    (∀ e, (s.duckClient name).groupVersionKindFor o = .error e →
      (s.duckClient name).get key o = { obj := o, issued := none, err := some e } ∧
      (s.duckClient name).trackAndGet key o = { obj := o, issued := none, err := some e }) ∧
    (∀ gvk, (s.duckClient name).groupVersionKindFor o = .ok gvk →
      ((s.duckClient name).get key o).issued = some { o with gvk := gvk } ∧
      ((s.duckClient name).trackAndGet key o).issued = some { o with gvk := gvk }) := by
  intro sel
  have hok := fun track d hd => (duck_on_cluster s name ht hr o.gvk.groupKind track).1 d hd
  have herr := fun track hn => (duck_on_cluster s name ht hr o.gvk.groupKind track).2 hn
  have hiff := groupVersionKindFor_on_cluster s name ht hr o
  refine ⟨hiff, fun hn => by rw [groupVersionKindFor_eq, herr false hn]; rfl,
    fun d hd hq => withVersion_of_selected (show d ∈ sel by rw [hd]; exact List.mem_singleton_self d) hq,
    ?_, ?_⟩
  · intro e he
    -- the lookup failed, so no Duck is the one selected
    have hn : ∀ d, sel ≠ [d] := fun d hd => by
      rw [(hiff _).mpr ⟨d, hd, rfl⟩] at he
      cases he
    rw [groupVersionKindFor_eq, herr false hn] at he
    cases he
    exact ⟨getWith_of_duck_error _ (herr false hn), getWith_of_duck_error _ (herr true hn)⟩
  · intro gvk hg
    obtain ⟨d, hd, rfl⟩ := (hiff gvk).mp hg
    exact ⟨getWith_of_duck_ok _ (hok false d hd), getWith_of_duck_ok _ (hok true d hd)⟩

-- The DuckType of the client's tests, Ready, whose list holds the Ready Duck of batch/v1 Job
def conditionDuckType : DuckType :=
  { name := "conditionducks.example.com", uid := "uid-1", deletionTimestamp := none, finalizers := [],
    spec := { group := "example.com", plural := "conditionducks", singular := "", kind := "ConditionDuck",
              listKind := "" },
    conditions := [{ type := conditionReady, status := .conditionTrue, reason := "", message := "" }] }

def jobDuck : Duck :=
  { name := "jobs.batch", uid := "uid-2", deletionTimestamp := none, finalizers := [],
    spec := { group := "batch", version := "v1", kind := "Job" },
    conditions := [{ type := conditionReady, status := .conditionTrue, reason := "", message := "" }] }

def jobBlue : Object := { gvk := ⟨"batch", "v1", "Job"⟩, name := "blue" }

def jobGreen : Object := { gvk := ⟨"batch", "v1", "Job"⟩, name := "green" }

-- duck.Convert as the client's tests observe it: the typed list takes the aggregate's
-- items and, as the aggregate has none, no TypeMeta
def testConvert (aggregate : List Object) (_ : ObjectList) : ObjectList × Option Error :=
  ({ gvk := ⟨"", "", ""⟩, items := aggregate }, none)

def jobCluster : Cluster :=
  { duckTypes := fun n => if n = conditionDuckType.name then some conditionDuckType else none
    duckLists := fun gvk => if gvk = duckTypeListGVK conditionDuckType.default then [jobDuck] else []
    objects := fun gvk _ => if gvk = duckListGVK jobDuck then .ok [jobBlue, jobGreen] else .ok []
    stored := fun _ _ => none
    deleteAllOf := fun _ _ => .ok ()
    convert := testConvert }

-- The test "list normalized version": a list of batch/v1beta1 JobList takes the Jobs
-- of the Duck of batch/v1 Job, and Convert clears its TypeMeta.
example : (jobCluster.duckClient conditionDuckType.name).list
      { gvk := ⟨"batch", "v1beta1", "JobList"⟩, items := [] } ⟨"", []⟩ =
    ({ gvk := ⟨"", "", ""⟩, items := [jobBlue, jobGreen] }, none) := by
  decide

-- The JSON round trip of duck.Convert when an item does not fit the typed list:
-- Unmarshal fills in the items and reports the type error it met.
def unmarshalTypeError : Error :=
  .new "json: cannot unmarshal string into Go struct field Status.items.status.conditions of type []v1.Condition"

def partialConvert (aggregate : List Object) (_ : ObjectList) : ObjectList × Option Error :=
  ({ gvk := ⟨"", "", ""⟩, items := aggregate }, some unmarshalTypeError)

def partialConvertCluster : Cluster := { jobCluster with convert := partialConvert }

-- List fails and still leaves the caller's list written.
theorem list_error_after_convert_writes :
    (partialConvertCluster.duckClient conditionDuckType.name).list
        { gvk := ⟨"batch", "v1beta1", "JobList"⟩, items := [] } ⟨"", []⟩ =
      ({ gvk := ⟨"", "", ""⟩, items := [jobBlue, jobGreen] }, some unmarshalTypeError) ∧
    ({ gvk := ⟨"", "", ""⟩, items := [jobBlue, jobGreen] } : ObjectList) ≠
      { gvk := ⟨"batch", "v1beta1", "JobList"⟩, items := [] } := by
  decide

-- An object of no group and no kind selects the one Ready Duck, and its kind comes
-- back empty: it names neither the Duck's kind nor its list kind.
theorem empty_groupKind_gvk_names_no_duck :
    (jobCluster.duckClient conditionDuckType.name).groupVersionKindFor
        { gvk := ⟨"", "v1beta1", ""⟩, name := "blue" } = .ok ⟨"", "v1", ""⟩ ∧
    ∀ d ∈ jobCluster.duckLists (duckTypeListGVK conditionDuckType.default),
      (⟨"", "v1", ""⟩ : GroupVersionKind) ≠ ⟨d.spec.group, d.spec.version, d.spec.kind⟩ ∧
      (⟨"", "v1", ""⟩ : GroupVersionKind) ≠ ⟨d.spec.group, d.spec.version, d.spec.kind ++ "List"⟩ := by
  refine ⟨rfl, ?_⟩
  decide

theorem jobCluster_normalizes_job_gvk :
    (jobCluster.duckClient conditionDuckType.name).groupVersionKindFor
        { gvk := ⟨"batch", "v1beta1", "Job"⟩, name := "blue" } = .ok ⟨"batch", "v1", "Job"⟩ :=
  ((duckClient_normalizes_gvk jobCluster conditionDuckType.name conditionDuckType rfl rfl
    { gvk := ⟨"batch", "v1beta1", "Job"⟩, name := "blue" } "blue").1 _).mpr ⟨jobDuck, by decide, rfl⟩

end Cluster

end Ducks.Client
