import Mathlib.Data.Finset.Card
import DataSchema.Cache
import DataSchema.Proofs.Document.Compact

/-!
# Caches give what the loader gives

A cache finds a schema by the fingerprint of its document, while the schema itself holds the
fingerprint of what was read from it. What carries the proofs is that every entry is what loading
one of the documents gives that were loaded since the cache was last cleared, and that every one of
these documents has an entry. As long as fingerprints tell the documents apart, an entry can only be
found by the document that it was loaded from.
-/

namespace DataSchema

inductive Request where
  | load (document : Document)
  | clear

/-- The fingerprints of the documents do not collide: different canonical texts
have different digests. -/
def Fingerprint.TellApart (documents : Set Document) : Prop :=
  ∀ a ∈ documents, ∀ b ∈ documents, ofText a.compact = ofText b.compact → a.compact = b.compact

theorem Fingerprint.TellApart.eq_of_ofDocument_eq {documents : Set Document}
    (h : TellApart documents) {a b : Document} (ha : a ∈ documents) (hb : b ∈ documents)
    (heq : ofDocument a = ofDocument b) : a = b :=
  Document.compact_injective (h a ha b hb heq)

namespace Cache

variable {loader : Loader} {cache : Cache} {document : Document} {used : Set Document}
  {kept : List Document} {cached : CachedSchema} {schema : Schema} {error : SchemaError}

/-- The cache after a request. -/
def after (cache : Cache) : Request → Cache
  | .load document => match cache.getOrLoad document with
    | .ok (_, loaded) => loaded
    | .error _ => cache
  | .clear => cache.clear

def run (cache : Cache) (requests : List Request) : Cache := requests.foldl after cache

/-- What was loaded since the last clearing, after one more request. -/
def loadedAfter (loader : Loader) (kept : List Document) : Request → List Document
  | .load document => if (loader.load document).isOk then kept ++ [document] else kept
  | .clear => []

def loadedSinceClear (loader : Loader) (requests : List Request) : List Document :=
  requests.foldl (loadedAfter loader) []

/-! ### One call -/

def keep (cache : Cache) (key : Fingerprint) (schema : Schema) : Cache :=
  { cache with entries := cache.entries ++ [(key, ⟨cache.next, schema⟩)], next := cache.next + 1 }

theorem getOrLoad_of_lookup (h : cache.entries.lookup (.ofDocument document) = some cached) :
    cache.getOrLoad document = .ok (cached, cache) := by
  rw [getOrLoad, h]

theorem getOrLoad_of_load (hlookup : cache.entries.lookup (.ofDocument document) = none)
    (hload : cache.loader.load document = .ok schema) :
    cache.getOrLoad document = .ok (⟨cache.next, schema⟩,
      cache.keep (.ofDocument document) schema) := by
  rw [getOrLoad, hlookup, hload]
  rfl

theorem getOrLoad_of_load_error (hlookup : cache.entries.lookup (.ofDocument document) = none)
    (hload : cache.loader.load document = .error error) :
    cache.getOrLoad document = .error error := by
  rw [getOrLoad, hlookup, hload]
  rfl

/-! ### What a cache holds -/

/-- The cache of a loader holds the schemas of the documents and nothing else, every one under a key
and with a serial number of its own. -/
structure Holds (loader : Loader) (used : Set Document) (kept : List Document) (cache : Cache) :
    Prop where
  loader_eq : cache.loader = loader
  known : ∀ document ∈ kept, document ∈ used
  sound : ∀ key cached, cache.entries.lookup key = some cached →
    ∃ document ∈ kept, Fingerprint.ofDocument document = key ∧
      loader.load document = .ok cached.schema
  complete : ∀ document ∈ kept, ∃ cached, cache.entries.lookup (.ofDocument document) = some cached
  serial_lt : ∀ key cached, cache.entries.lookup key = some cached → cached.serial < cache.next
  serial_inj : ∀ key cached other found, cache.entries.lookup key = some cached →
    cache.entries.lookup other = some found →
    cached.serial = found.serial → key = other
  nodup : (cache.entries.map Prod.fst).Nodup

theorem lookup_eq_none_iff {key : Fingerprint} :
    cache.entries.lookup key = none ↔ key ∉ cache.entries.map Prod.fst := by
  rw [List.lookup_eq_none_iff, List.mem_map, not_exists]
  refine forall_congr' fun entry => ?_
  rw [not_and, bne_iff_ne, ne_comm]

theorem mem_keys_iff {key : Fingerprint} :
    key ∈ cache.entries.map Prod.fst ↔ ∃ cached, cache.entries.lookup key = some cached := by
  rw [← not_iff_not, ← lookup_eq_none_iff, Option.eq_none_iff_forall_ne_some, not_exists]

theorem lookup_keep (key other : Fingerprint) (schema : Schema) :
    (cache.keep key schema).entries.lookup other =
    (cache.entries.lookup other).or (if other = key then some ⟨cache.next, schema⟩ else none) := by
  rw [keep, List.lookup_append, List.lookup_cons, List.lookup_nil]
  by_cases h : other = key
  · rw [if_pos h, beq_iff_eq.2 h]
  · rw [if_neg h, beq_false_of_ne h]

namespace Holds

theorem nothing (loader : Loader) (used : Set Document) (next : Nat) :
    Holds loader used [] ⟨loader, [], next⟩ where
  loader_eq := rfl
  known := by simp
  sound := by simp
  complete := by simp
  serial_lt := by simp
  serial_inj := by simp
  nodup := by simp

theorem again (h : Holds loader used kept cache) (hdocument : document ∈ used)
    (hlookup : cache.entries.lookup (.ofDocument document) = some cached) :
    Holds loader used (kept ++ [document]) cache where
  loader_eq := h.loader_eq
  known := List.forall_mem_append.2 ⟨h.known, by simpa using hdocument⟩
  sound key found hfound := by
    obtain ⟨origin, horigin, hload⟩ := h.sound key found hfound
    exact ⟨origin, List.mem_append_left _ horigin, hload⟩
  complete other hother := by
    rcases List.mem_append.1 hother with hother | hother
    · exact h.complete other hother
    · cases List.mem_singleton.1 hother
      exact ⟨cached, hlookup⟩
  serial_lt := h.serial_lt
  serial_inj := h.serial_inj
  nodup := h.nodup

theorem keep (h : Holds loader used kept cache) (hdocument : document ∈ used)
    (hlookup : cache.entries.lookup (.ofDocument document) = none)
    (hload : loader.load document = .ok schema) :
    Holds loader used (kept ++ [document]) (cache.keep (.ofDocument document) schema) := by
  have hcases : ∀ key cached, (cache.keep (.ofDocument document) schema).entries.lookup key =
      some cached →
      cache.entries.lookup key = some cached ∨ key = .ofDocument document ∧
        cached = ⟨cache.next, schema⟩ := by
    intro key cached hfound
    rw [lookup_keep, Option.or_eq_some_iff] at hfound
    refine hfound.imp_right fun hnew => ?_
    split at hnew
    · rename_i hkey
      exact ⟨hkey, (Option.some.inj hnew.2).symm⟩
    · cases hnew.2
  constructor
  · exact h.loader_eq
  · exact List.forall_mem_append.2 ⟨h.known, by simpa using hdocument⟩
  · intro key cached hfound
    rcases hcases key cached hfound with hfound | ⟨rfl, rfl⟩
    · obtain ⟨origin, horigin, hload⟩ := h.sound key cached hfound
      exact ⟨origin, List.mem_append_left _ horigin, hload⟩
    · exact ⟨document, by simp, rfl, hload⟩
  · intro other hother
    rw [lookup_keep]
    rcases List.mem_append.1 hother with hother | hother
    · obtain ⟨cached, hcached⟩ := h.complete other hother
      exact ⟨cached, by rw [hcached, Option.some_or]⟩
    · cases List.mem_singleton.1 hother
      exact ⟨_, by rw [hlookup, Option.none_or, if_pos rfl]⟩
  · intro key cached hfound
    rcases hcases key cached hfound with hfound | ⟨-, rfl⟩
    · exact Nat.lt_succ_of_lt (h.serial_lt key cached hfound)
    · exact Nat.lt_succ_self _
  · intro key cached other found hcached hfound hserial
    rcases hcases key cached hcached with hcached | ⟨rfl, rfl⟩
    · rcases hcases other found hfound with hfound | ⟨rfl, rfl⟩
      · exact h.serial_inj key cached other found hcached hfound hserial
      · exact absurd hserial (Nat.ne_of_lt (h.serial_lt key cached hcached))
    · rcases hcases other found hfound with hfound | ⟨rfl, -⟩
      · exact absurd hserial.symm (Nat.ne_of_lt (h.serial_lt other found hfound))
      · rfl
  · change ((cache.entries ++ [_]).map Prod.fst).Nodup
    rw [List.map_append, List.nodup_append]
    refine ⟨h.nodup, by simp, ?_⟩
    rintro key hkey _ hnew rfl
    cases List.mem_singleton.1 hnew
    exact lookup_eq_none_iff.1 hlookup hkey

/-- Clearing keeps the serial numbers going. -/
theorem clear (h : Holds loader used kept cache) : Holds loader used [] cache.clear := by
  have hnothing : Holds cache.loader used [] cache.clear := nothing cache.loader used cache.next
  rwa [h.loader_eq] at hnothing

/-- A call answers as the loader does; what it loads is kept under the key of the document. -/
theorem getOrLoad (h : Holds loader used kept cache) (hapart : Fingerprint.TellApart used)
    (hdocument : document ∈ used) :
    (∃ error, loader.load document = .error error ∧ cache.getOrLoad document = .error error) ∨
    ∃ cached loaded, loader.load document = .ok cached.schema ∧
      cache.getOrLoad document = .ok (cached, loaded) ∧
      loaded.entries.lookup (.ofDocument document) = some cached ∧
      Holds loader used (kept ++ [document]) loaded := by
  cases hlookup : cache.entries.lookup (.ofDocument document) with
  | some cached =>
    obtain ⟨origin, horigin, hkey, hload⟩ := h.sound _ cached hlookup
    have hsame : origin = document :=
      hapart.eq_of_ofDocument_eq (h.known origin horigin) hdocument hkey
    exact .inr ⟨cached, cache, hsame ▸ hload, getOrLoad_of_lookup hlookup, hlookup,
      h.again hdocument hlookup⟩
  | none =>
    cases hload : loader.load document with
    | error error => exact .inl ⟨error, rfl, getOrLoad_of_load_error hlookup (h.loader_eq ▸ hload)⟩
    | ok schema =>
      refine .inr ⟨_, _, rfl, getOrLoad_of_load hlookup (h.loader_eq ▸ hload), ?_,
        h.keep hdocument hlookup hload⟩
      rw [lookup_keep, hlookup, Option.none_or, if_pos rfl]

theorem of_getOrLoad (h : Holds loader used kept cache)
    (hapart : Fingerprint.TellApart used) (hdocument : document ∈ used) {loaded : Cache}
    (hcall : cache.getOrLoad document = .ok (cached, loaded)) :
    loaded.entries.lookup (.ofDocument document) = some cached ∧
    Holds loader used (kept ++ [document]) loaded := by
  rcases h.getOrLoad hapart hdocument with ⟨error, -, hfails⟩
    | ⟨_, _, -, hanswers, hlookup, hloaded⟩
  · rw [hfails] at hcall
    cases hcall
  · rw [hanswers] at hcall
    cases hcall
    exact ⟨hlookup, hloaded⟩

theorem after (h : Holds loader used kept cache) (hapart : Fingerprint.TellApart used)
    {request : Request} (hrequest : ∀ document, request = .load document → document ∈ used) :
    Holds loader used (loadedAfter loader kept request) (cache.after request) := by
  cases request with
  | clear => exact h.clear
  | load document =>
    rw [loadedAfter, Cache.after]
    rcases h.getOrLoad hapart (hrequest document rfl) with ⟨error, hload, hcall⟩
      | ⟨cached, loaded, hload, hcall, -, hholds⟩
    · rw [hload, hcall]
      exact h
    · rw [hload, hcall]
      exact hholds

theorem run (h : Holds loader used kept cache) (hapart : Fingerprint.TellApart used)
    {requests : List Request}
    (hrequests : ∀ document, .load document ∈ requests → document ∈ used) :
    Holds loader used (requests.foldl (loadedAfter loader) kept) (cache.run requests) := by
  induction requests generalizing kept cache with
  | nil => exact h
  | cons request rest ih =>
    have hrequest : ∀ document, request = .load document → document ∈ used := by
      rintro document rfl
      exact hrequests document List.mem_cons_self
    exact ih (h.after hapart hrequest) fun document hmem =>
      hrequests document (List.mem_cons_of_mem _ hmem)

theorem size_eq (h : Holds loader used kept cache) (hapart : Fingerprint.TellApart used) :
    cache.size = kept.toFinset.card := by
  have hkeys : (cache.entries.map Prod.fst).toFinset =
      kept.toFinset.image Fingerprint.ofDocument := by
    ext key
    rw [List.mem_toFinset, Finset.mem_image]
    constructor
    · intro hkey
      obtain ⟨cached, hcached⟩ := mem_keys_iff.1 hkey
      obtain ⟨document, hdocument, hsame, -⟩ := h.sound key cached hcached
      exact ⟨document, List.mem_toFinset.2 hdocument, hsame⟩
    · rintro ⟨document, hdocument, rfl⟩
      exact mem_keys_iff.2 (h.complete document (List.mem_toFinset.1 hdocument))
  have hinj : Set.InjOn Fingerprint.ofDocument (kept.toFinset : Set Document) := by
    intro a ha b hb heq
    exact hapart.eq_of_ofDocument_eq (h.known a (by simpa using ha))
      (h.known b (by simpa using hb)) heq
  calc cache.entries.length = (cache.entries.map Prod.fst).length := (List.length_map _).symm
    _ = (cache.entries.map Prod.fst).toFinset.card := (List.toFinset_card_of_nodup h.nodup).symm
    _ = kept.toFinset.card := by rw [hkeys, Finset.card_image_of_injOn hinj]

end Holds

/-! ### Histories -/

/-- The documents that a cache is asked for. -/
def requested (requests : List Request) : Set Document := {document | .load document ∈ requests}

/-- Whatever was asked of a new cache before, it answers as its loader does. -/
structure Transparent (loader : Loader) (requests : List Request) : Prop where
  /-- A call gives what the loader gives, a schema or an error. -/
  answer : ∀ before document after, requests = before ++ .load document :: after →
    (((new loader).run before).getOrLoad document).map (fun outcome => outcome.1.schema) =
      loader.load document
  /-- As long as nothing is cleared, one object is handed out for one document. -/
  object : ∀ before first middle second after a loaded b others,
    requests = before ++ .load first :: middle ++ .load second :: after → .clear ∉ middle →
    ((new loader).run before).getOrLoad first = .ok (a, loaded) →
    ((new loader).run (before ++ .load first :: middle)).getOrLoad second = .ok (b, others) →
    (a.serial = b.serial ↔ first = second) ∧ (first = second → a = b)
  /-- A call that fails might as well not have been made. -/
  failure : ∀ before document after error, requests = before ++ .load document :: after →
    ((new loader).run before).getOrLoad document = .error error →
    (new loader).run (before ++ [.load document]) = (new loader).run before ∧
    (new loader).run requests = (new loader).run (before ++ after)
  size : ((new loader).run requests).size = (loadedSinceClear loader requests).toFinset.card

theorem run_append (cache : Cache) (before after : List Request) :
    cache.run (before ++ after) = (cache.run before).run after :=
  List.foldl_append

theorem lookup_after {request : Request} {key : Fingerprint} (hrequest : request ≠ .clear)
    (h : cache.entries.lookup key = some cached) :
    (cache.after request).entries.lookup key = some cached := by
  cases request with
  | clear => exact absurd rfl hrequest
  | load document =>
    rw [after]
    cases hlookup : cache.entries.lookup (.ofDocument document) with
    | some other => rw [getOrLoad_of_lookup hlookup, h]
    | none =>
      cases hload : cache.loader.load document with
      | error => rw [getOrLoad_of_load_error hlookup hload, h]
      | ok => rw [getOrLoad_of_load hlookup hload, lookup_keep, h, Option.some_or]

theorem lookup_run {requests : List Request} {key : Fingerprint} (hrequests : .clear ∉ requests)
    (h : cache.entries.lookup key = some cached) :
    (cache.run requests).entries.lookup key = some cached := by
  induction requests generalizing cache with
  | nil => exact h
  | cons request rest ih =>
    rw [List.mem_cons, not_or] at hrequests
    exact ih hrequests.2 (lookup_after (Ne.symm hrequests.1) h)

theorem after_of_error (h : cache.getOrLoad document = .error error) :
    cache.after (.load document) = cache := by
  rw [after, h]

theorem after_of_ok {loaded : Cache} (h : cache.getOrLoad document = .ok (cached, loaded)) :
    cache.after (.load document) = loaded := by
  rw [after, h]

theorem Holds.serial_eq_iff (h : Holds loader used kept cache) (hapart : Fingerprint.TellApart used)
    {first second : Document} {a b : CachedSchema} (hfirst : first ∈ used) (hsecond : second ∈ used)
    (ha : cache.entries.lookup (.ofDocument first) = some a)
    (hb : cache.entries.lookup (.ofDocument second) = some b) :
    (a.serial = b.serial ↔ first = second) ∧ (first = second → a = b) := by
  have hsame : first = second → a = b := by
    rintro rfl
    exact Option.some.inj (ha.symm.trans hb)
  refine ⟨⟨fun hserial => ?_, fun heq => congrArg CachedSchema.serial (hsame heq)⟩, hsame⟩
  exact hapart.eq_of_ofDocument_eq hfirst hsecond (h.serial_inj _ a _ b ha hb hserial)

/-- Caching cannot be observed: as long as fingerprints tell the documents apart that a
cache is asked for, it answers every request as its loader does, however often it was
asked and cleared before. -/
theorem transparent (loader : Loader) (requests : List Request)
    (h : Fingerprint.TellApart (requested requests)) :
    Transparent loader requests := by
  have hholds : ∀ before after, requests = before ++ after →
      Holds loader (requested requests) (loadedSinceClear loader before)
        ((new loader).run before) := by
    rintro before after rfl
    refine (Holds.nothing loader _ 0).run h fun document hdocument => ?_
    exact List.mem_append_left _ hdocument
  constructor
  · intro before document after hsplit
    have hdocument : document ∈ requested requests := by simp [requested, hsplit]
    rcases (hholds before _ hsplit).getOrLoad h hdocument with ⟨error, hload, hcall⟩
      | ⟨cached, loaded, hload, hcall, -⟩
    · rw [hload, hcall]
      rfl
    · rw [hload, hcall]
      rfl
  · intro before first middle second after a loaded b others hsplit hclear hcallFirst hcallSecond
    have hfirst : first ∈ requested requests := by simp [requested, hsplit]
    have hsecond : second ∈ requested requests := by simp [requested, hsplit]
    have hlookup : loaded.entries.lookup (.ofDocument first) = some a :=
      ((hholds before _ (by rw [hsplit, List.append_assoc])).of_getOrLoad h hfirst hcallFirst).1
    have hrun : (new loader).run (before ++ .load first :: middle) = loaded.run middle := by
      rw [run_append]
      exact congrArg (run · middle) (after_of_ok hcallFirst)
    have hmiddle := hholds (before ++ .load first :: middle) _ hsplit
    rw [hrun] at hmiddle hcallSecond
    have hne : Request.load second ≠ .clear := nofun
    have hstays := lookup_after hne (lookup_run hclear hlookup)
    rw [after_of_ok hcallSecond] at hstays
    obtain ⟨hlookup', hothers⟩ := hmiddle.of_getOrLoad h hsecond hcallSecond
    exact hothers.serial_eq_iff h hfirst hsecond hstays hlookup'
  · intro before document after error hsplit hcall
    have hstays := after_of_error hcall
    rw [hsplit, run_append, run_append, run_append]
    exact ⟨hstays, congrArg (run · after) hstays⟩
  · exact (hholds requests [] (List.append_nil _).symm).size_eq h

def textDocument : Document := .object [("type", .string "str")]

def integerDocument : Document := .object [("type", .string "int")]

def someRequests : List Request :=
  [.load textDocument, .clear, .load textDocument, .load .null, .load integerDocument,
    .load textDocument]

/-- The cache is cleared once and holds both schemas in the end. -/
theorem transparent_someRequests : Fingerprint.TellApart (requested someRequests) ∧
    Transparent Loader.standard someRequests ∧
    ((new Loader.standard).run someRequests).size = 2 := by
  have hnodup : ([textDocument, .null, integerDocument].map fun document =>
      Fingerprint.ofText document.compact).Nodup := by
    decide +kernel
  have hlisted : ∀ document ∈ requested someRequests, document ∈
      [textDocument, .null, integerDocument] := by
    intro document hdocument
    have hrequest : Request.load document ∈ someRequests := hdocument
    simp only [someRequests, List.mem_cons, Request.load.injEq, reduceCtorEq] at hrequest ⊢
    tauto
  have hapart : Fingerprint.TellApart (requested someRequests) := by
    intro a ha b hb heq
    exact congrArg Document.compact (List.inj_on_of_nodup_map hnodup (hlisted a ha)
      (hlisted b hb) heq)
  have htransparent := transparent Loader.standard someRequests hapart
  refine ⟨hapart, htransparent, htransparent.size.trans ?_⟩
  decide +kernel

end Cache

end DataSchema
