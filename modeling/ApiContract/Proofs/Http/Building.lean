import ApiContract.Proofs.Http.Spelling
import ApiContract.Proofs.Http.Target

/-
Requests from a target and requests put together by hand.

A request can be given its query parameters one at a time, or all at once in the query string of its
target.  Whatever the order of the pairs in the query string, as long as those of one list keep
theirs, and however names and values are spelled there, both ways lead to the same request.

Main definitions:

* `ApiContract.Http.Given` — what a query parameter can be given: a text, or a list of texts;
* `ApiContract.Http.pairsOf` — the pairs that give it to the parameter;
* `ApiContract.Http.Givable` — query parameters that a query string can give;
* `ApiContract.Http.Interleaves` — the pairs of all of them, in any order that keeps lists in order;
* `ApiContract.Http.Request.give` — the request with a query parameter more.

Main results:

* `ApiContract.Http.Interleaves.filter_eq` — among all pairs, those of one parameter are found again;
* `ApiContract.Http.Query.ofText_eq_foldl_put` — the table of the query string;
* `ApiContract.Http.Request.ofPathAndQuery_eq_give` — **both ways lead to the same request**.
-/

set_option autoImplicit false

namespace ApiContract.Http

/-- What a query parameter is given. -/
inductive Given where
  | text (value : String)
  | list (values : List String)
  deriving DecidableEq

/-- The value of a query parameter that is given something. -/
def Given.toJson : Given → Json
  | text value => .text value
  | list values => .texts values

/-- The pairs that give a query parameter its value. -/
def pairsOf (entry : String × Given) : List (String × String) :=
  match entry.2 with
  | .text value => [(entry.1, value)]
  | .list values => values.map fun value => (entry.1 ++ "[]", value)

/-- Query parameters that a query string can give: no name stands twice, none ends in brackets, and
no list is empty. -/
structure Givable (entries : List (String × Given)) : Prop where
  nodup : (entries.map Prod.fst).Nodup
  name : ∀ entry ∈ entries, ¬ EndsInBrackets entry.1
  list : ∀ entry ∈ entries, entry.2 ≠ .list []

/-- The pairs are those of all the parameters, in an order that keeps each list in its own. -/
structure Interleaves (entries : List (String × Given)) (pairs : List (String × String)) :
    Prop where
  perm : pairs.Perm (entries.flatMap pairsOf)
  order : ∀ entry ∈ entries, (pairsOf entry).Sublist pairs

variable {entries order : List (String × Given)} {entry : String × Given}
  {pairs : List (String × String)} {pair : String × String} {name : String}

/-! ### Pairs of one parameter -/

/-- A pair of a parameter concerns its name and no other. -/
theorem concerns_pairsOf_iff (hname : ¬ EndsInBrackets entry.1) (hpair : pair ∈ pairsOf entry) :
    Concerns name pair ↔ name = entry.1 := by
  obtain ⟨key, value⟩ := entry
  cases value with
  | text value =>
      obtain rfl := List.mem_singleton.1 hpair
      constructor
      · rintro (hplain | hb)
        · exact hplain.1.symm
        · exact absurd (hb ▸ Query.endsInBrackets_append name) hname
      · rintro rfl
        exact .inl ⟨rfl, hname⟩
  | list values =>
      obtain ⟨value, -, rfl⟩ := List.mem_map.1 hpair
      constructor
      · rintro (hplain | hb)
        · exact absurd (hplain.1 ▸ Query.endsInBrackets_append key) hplain.2
        · simpa [Bracketed] using hb.symm
      · rintro rfl
        exact .inr rfl

theorem filter_pairsOf (hname : ¬ EndsInBrackets entry.1) :
    (pairsOf entry).filter (fun pair => Concerns entry.1 pair) = pairsOf entry :=
  List.filter_eq_self.2 fun _ hpair => decide_eq_true ((concerns_pairsOf_iff hname hpair).2 rfl)

/-- No pair of any parameter concerns another name. -/
theorem filter_flatMap_of_not_mem (hnames : ∀ entry ∈ entries, ¬ EndsInBrackets entry.1)
    (h : name ∉ entries.map Prod.fst) :
    (entries.flatMap pairsOf).filter (fun pair => Concerns name pair) = [] := by
  rw [List.filter_eq_nil_iff]
  intro pair hpair hc
  obtain ⟨entry, hentry, hmem⟩ := List.mem_flatMap.1 hpair
  obtain rfl := (concerns_pairsOf_iff (hnames entry hentry) hmem).1 (of_decide_eq_true hc)
  exact h (List.mem_map_of_mem hentry)

/-- Among the pairs of all the parameters, those that concern one are its own. -/
theorem filter_flatMap_of_mem (hnames : ∀ entry ∈ entries, ¬ EndsInBrackets entry.1)
    (hnodup : (entries.map Prod.fst).Nodup) (hentry : entry ∈ entries) :
    (entries.flatMap pairsOf).filter (fun pair => Concerns entry.1 pair) = pairsOf entry := by
  induction entries with
  | nil => cases hentry
  | cons first rest ih =>
      obtain ⟨hfirst, hrest⟩ := List.forall_mem_cons.1 hnames
      rw [List.map_cons, List.nodup_cons] at hnodup
      rw [List.flatMap_cons, List.filter_append]
      rcases List.mem_cons.1 hentry with rfl | hmem
      · rw [filter_pairsOf hfirst, filter_flatMap_of_not_mem hrest hnodup.1, List.append_nil]
      · -- the first parameter has another name
        have hne : entry.1 ∉ [first].map Prod.fst := fun hin =>
          hnodup.1 (List.mem_singleton.1 hin ▸ List.mem_map_of_mem hmem)
        have hnone := filter_flatMap_of_not_mem (List.forall_mem_singleton.2 hfirst) hne
        rw [List.flatMap_singleton] at hnone
        rw [hnone, ih hrest hnodup.2 hmem, List.nil_append]

/-- **Among all pairs, those of one parameter are found again, in order.** -/
theorem Interleaves.filter_eq (h : Interleaves entries pairs) (hentries : Givable entries)
    (hentry : entry ∈ entries) :
    pairs.filter (fun pair => Concerns entry.1 pair) = pairsOf entry := by
  have hsub := (h.order entry hentry).filter fun pair => Concerns entry.1 pair
  have hlength := (h.perm.filter fun pair => Concerns entry.1 pair).length_eq
  rw [filter_pairsOf (hentries.name entry hentry)] at hsub
  rw [filter_flatMap_of_mem hentries.name hentries.nodup hentry] at hlength
  exact (hsub.eq_of_length hlength.symm).symm

theorem Interleaves.filter_eq_nil (h : Interleaves entries pairs) (hentries : Givable entries)
    (hname : name ∉ entries.map Prod.fst) : pairs.filter (fun pair => Concerns name pair) = [] := by
  have hperm := h.perm.filter fun pair => Concerns name pair
  rw [filter_flatMap_of_not_mem hentries.name hname] at hperm
  exact hperm.eq_nil

namespace Query

/-- The pairs of a parameter alone give it its value. -/
theorem get?_foldl_pairsOf (hname : ¬ EndsInBrackets entry.1) (hlist : entry.2 ≠ .list []) :
    ((pairsOf entry).foldl write []).get? entry.1 = some entry.2.toJson := by
  obtain ⟨key, value⟩ := entry
  cases value with
  | text value =>
      have hplain : Plain key (key, value) := ⟨rfl, hname⟩
      rw [pairsOf, List.foldl_cons, List.foldl_nil, get?_write,
        if_neg (not_bracketed_of_plain hplain), if_pos hplain]
      rfl
  | list values =>
      have hbracketed : ∀ pair ∈ pairsOf (key, .list values), Bracketed key pair := by
        intro pair hpair
        obtain ⟨value, -, rfl⟩ := List.mem_map.1 hpair
        rfl
      have hplain : ∀ pair ∈ pairsOf (key, .list values), ¬ Plain key pair :=
        fun pair hpair hp => not_bracketed_of_plain hp (hbracketed pair hpair)
      have hsome : ∃ pair ∈ pairsOf (key, .list values), Bracketed key pair := by
        cases values with
        | nil => exact absurd rfl hlist
        | cons value rest => exact ⟨_, List.mem_cons_self, rfl⟩
      rw [get?_foldl_of_not_plain hplain, if_pos hsome,
        List.filter_eq_self.2 fun pair hpair => decide_eq_true (hbracketed pair hpair)]
      simp [pairsOf, listed, get?, Given.toJson, Json.texts, Function.comp_def]

/-! ### Tables -/

/-- The table with a parameter set to what it is given. -/
def put (q : Query) (entry : String × Given) : Query := Query.set q entry.1 entry.2.toJson

theorem get?_put (q : Query) (entry : String × Given) (name : String) :
    (put q entry).get? name = if name = entry.1 then some entry.2.toJson else q.get? name :=
  get?_set q entry.1 name entry.2.toJson

theorem get?_foldl_put_of_not_mem {q : Query} (h : name ∉ order.map Prod.fst) :
    (order.foldl put q).get? name = q.get? name := by
  induction order generalizing q with
  | nil => rfl
  | cons first rest ih =>
      rw [List.map_cons, List.mem_cons, not_or] at h
      rw [List.foldl_cons, ih h.2, get?_put, if_neg h.1]

theorem get?_foldl_put_of_mem {q : Query} (hnodup : (order.map Prod.fst).Nodup)
    (hentry : entry ∈ order) : (order.foldl put q).get? entry.1 = some entry.2.toJson := by
  induction order generalizing q with
  | nil => cases hentry
  | cons first rest ih =>
      rw [List.map_cons, List.nodup_cons] at hnodup
      rw [List.foldl_cons]
      rcases List.mem_cons.1 hentry with rfl | hrest
      · rw [get?_foldl_put_of_not_mem hnodup.1, get?_put, if_pos rfl]
      · exact ih hnodup.2 hrest

theorem Sorted.foldl_put {q : Query} (h : Sorted q) (order : List (String × Given)) :
    Sorted (order.foldl put q) := by
  induction order generalizing q with
  | nil => exact h
  | cons first rest ih => exact ih (h.set first.1 first.2.toJson)

/-- **The table of a query string in which parameters are given is the one into which they are
written, in whatever order.** -/
theorem ofText_eq_foldl_put {query : String} (hentries : Givable entries)
    (hpairs : Interleaves entries pairs) (hquery : Form.Writes query pairs)
    (horder : order.Perm entries) : ofText query = order.foldl put [] := by
  refine eq_of_get?_eq (Sorted.foldl_write List.Pairwise.nil _)
    (Sorted.foldl_put List.Pairwise.nil _) fun name => ?_
  rw [ofText, Form.pairs_of_writes hquery, get?_foldl_filter (rfl : get? [] name = get? [] name)]
  have hnames := horder.map Prod.fst
  by_cases hname : name ∈ entries.map Prod.fst
  · obtain ⟨entry, hentry, rfl⟩ := List.mem_map.1 hname
    rw [hpairs.filter_eq hentries hentry,
      get?_foldl_pairsOf (hentries.name entry hentry) (hentries.list entry hentry),
      get?_foldl_put_of_mem (hnames.nodup_iff.2 hentries.nodup) (horder.mem_iff.2 hentry)]
  · rw [hpairs.filter_eq_nil hentries hname, get?_foldl_put_of_not_mem (mt hnames.mem_iff.1 hname)]
    rfl

end Query

namespace Request

/-- The request with a query parameter more. -/
def give (r : Request) (entry : String × Given) : Request :=
  match entry.2 with
  | .text value => r.withQuery entry.1 value
  | .list values => r.withQueryList entry.1 values

theorem give_eq (r : Request) (entry : String × Given) :
    r.give entry = { r with query := Query.put r.query entry } := by
  obtain ⟨name, value⟩ := entry
  cases value <;> rfl

theorem foldl_give (r : Request) (order : List (String × Given)) :
    order.foldl give r = { r with query := order.foldl Query.put r.query } := by
  induction order generalizing r with
  | nil => rfl
  | cons entry order ih => rw [List.foldl_cons, ih, give_eq, List.foldl_cons]

/-- **A target with a query string leads to the request that is given the same parameters one at a
time**: the pairs of the parameters may stand in the query string in any order that keeps each list
in its own, and names and values may be spelled in any way, with an escape for every byte among
them. -/
theorem ofPathAndQuery_eq_give {path : String} (hpath : '?' ∉ path.toList)
    (hentries : Givable entries) (hpairs : Interleaves entries pairs)
    (horder : order.Perm entries) (method : Method) :
    (∀ query, Form.Writes query pairs →
      ofPathAndQuery method (path ++ "?" ++ query) = order.foldl give (ofPath method path)) ∧
      Form.Writes (Form.escaped pairs) pairs := by
  refine ⟨fun query hquery => ?_, Form.writes_escaped pairs⟩
  have htable := Query.ofText_eq_foldl_put hentries hpairs hquery horder
  rw [ofPathAndQuery, Target.split_append hpath, foldl_give]
  simp only [ofTarget, ofPath, Option.map_some, Option.getD_some, htable]

/-- Two query parameters, the signs of the encoding in one of them. -/
def twoParameters : List (String × Given) :=
  [("a&b", .text "1+1=2"), ("ids", .list ["7", "\u00e9"])]

/-- Their pairs, that of the first between those of the second. -/
def threePairs : List (String × String) :=
  [("ids[]", "7"), ("a&b", "1+1=2"), ("ids[]", "\u00e9")]

theorem givable_twoParameters : Givable twoParameters where
  nodup := by decide
  name := by decide
  list := by decide

theorem interleaves_threePairs : Interleaves twoParameters threePairs where
  perm := by decide
  order := by decide

theorem escaped_threePairs : Form.escaped threePairs =
    "%69%64%73[]=%37&%61%26%62=%31%2b%31%3d%32&%69%64%73[]=%c3%a9" := by
  decide +kernel

/-- The second parameter may be given first, although its pairs come last. -/
theorem ofPathAndQuery_threePairs :
    '?' ∉ "/search".toList ∧ Givable twoParameters ∧ Interleaves twoParameters threePairs ∧
      ∀ method, ofPathAndQuery method
          "/search?%69%64%73[]=%37&%61%26%62=%31%2b%31%3d%32&%69%64%73[]=%c3%a9" =
        ((ofPath method "/search").withQueryList "ids" ["7", "\u00e9"]).withQuery "a&b" "1+1=2" := by
  have hpath : '?' ∉ "/search".toList := by decide
  refine ⟨hpath, givable_twoParameters, interleaves_threePairs, fun method => ?_⟩
  obtain ⟨hboth, hwrites⟩ := ofPathAndQuery_eq_give hpath givable_twoParameters
    interleaves_threePairs (List.reverse_perm twoParameters) method
  rw [escaped_threePairs] at hwrites
  exact hboth _ hwrites

end Request

end ApiContract.Http
