import SkyLock.Lib.SortedSet
import SkyLock.Errors

/-!
# Rate limits

`app/security/ratelimit.py`: a sorted set per bucket and subject holds one member per
request, scored by the time of the request.  Each check trims what is older than the
window, adds its own member and counts what is there, so that refused requests count
as well.

## Main definitions

* `Redis` — the store the windows live in.
* `Limit`, `limits` — the buckets.
* `checkLimit`, `rateLimit` — `check_limit`, and the two checks of a request.
* `afterCalls` — the store after a sequence of calls.

## Main results

* `rateLimit_ok_iff` — a request passes iff its address and its user both do.
* `limits_pass_first` — no bucket of `LIMITS` refuses its first request.
* `sliding_window_exact` — **a call is refused iff `max_requests` earlier ones are in its
  window, and so no window of that length, wherever it starts, admits more**.
-/

namespace SkyLock

/-- What the application keeps in Redis: sorted sets, and texts with their deadlines. -/
structure Redis where
  zset : String → SortedSet String
  text : String → Option (String × ℕ)

namespace Redis

/-- Nothing is stored. -/
def empty : Redis := ⟨fun _ => .empty, fun _ => none⟩

/-- Rewrite the sorted set under a key. -/
def setZset (r : Redis) (key : String) (z : SortedSet String) : Redis :=
  { r with zset := Function.update r.zset key z }

/-- `SET key value EX …`, with the time it comes to. -/
def setText (r : Redis) (key value : String) (deadline : ℕ) : Redis :=
  { r with text := Function.update r.text key (some (value, deadline)) }

/-- `GET`. -/
def get (r : Redis) (key : String) (now : ℕ) : Option String :=
  ((r.text key).filter fun e => decide (now ≤ e.2)).map Prod.fst

@[simp] theorem zset_setZset (r : Redis) (key : String) (z : SortedSet String) :
    (r.setZset key z).zset key = z := Function.update_self ..

theorem zset_setZset_ne (r : Redis) {key key' : String} (z : SortedSet String)
    (h : key' ≠ key) : (r.setZset key z).zset key' = r.zset key' := Function.update_of_ne h ..

@[simp] theorem zset_setText (r : Redis) (key value : String) (d : ℕ) :
    (r.setText key value d).zset = r.zset := rfl

@[simp] theorem text_setZset (r : Redis) (key : String) (z : SortedSet String) :
    (r.setZset key z).text = r.text := rfl

end Redis

/-! ### The limiter -/

/-- `Limit`. -/
structure Limit where
  name : String
  maxRequests : ℕ
  windowSeconds : ℕ
  deriving DecidableEq, Repr

/-- `Limit.retry_after`. -/
def Limit.retryAfter (l : Limit) : ℕ := l.windowSeconds

/-- `LIMITS`. -/
def limits : List Limit :=
  [⟨"login", 10, 300⟩, ⟨"register", 10, 3600⟩, ⟨"refresh", 30, 300⟩, ⟨"hold", 30, 60⟩,
    ⟨"booking", 10, 60⟩, ⟨"search", 120, 60⟩, ⟨"global", 600, 60⟩]

/-- `RateLimited`. -/
def AppError.rateLimited (detail : String) (retryAfter : ℕ) : AppError :=
  ⟨429, "rate_limited", "Too many requests", detail, [("retry_after", .num retryAfter)]⟩

/-- The key of a bucket and a subject. -/
def Limit.key (l : Limit) (subject : String) : String := "rl:" ++ l.name ++ ":" ++ subject

/-- A call's reading of the clock, in milliseconds, and the eight digits it draws. -/
structure LimitCall where
  nowMs : ℕ
  suffix : String
  suffix_length : suffix.length = 8

/-- The member a call adds. -/
def LimitCall.member (c : LimitCall) : String := toString c.nowMs ++ "-" ++ c.suffix

/-- The pipeline of a call: what it leaves under its key, and the count it is answered. -/
def Limit.pipeline (l : Limit) (c : LimitCall) (z : SortedSet String) : SortedSet String × ℕ :=
  let cutoff : ℤ := (c.nowMs : ℤ) - (l.windowSeconds * 1000 : ℕ)
  let z := ((z.live c.nowMs).zremrangebyscore 0 cutoff).zadd c.member c.nowMs
  (z.expire (c.nowMs + (l.windowSeconds + 1) * 1000), z.zcard)

/-- `check_limit`: the store afterwards, and whether it raises.  There may be no store. -/
def checkLimit (rateLimitEnabled : Bool) (limit : Limit) (subject : String) (c : LimitCall)
    (redis : Option Redis) : Option Redis × Except AppError Unit :=
  if rateLimitEnabled then
    match redis with
    -- the limiter fails open
    | none => (none, .ok ())
    | some r =>
      let (z, count) := limit.pipeline c (r.zset (limit.key subject))
      (some (r.setZset (limit.key subject) z),
        if limit.maxRequests < count then
          .error (.rateLimited ("Rate limit exceeded for " ++ limit.name ++ ": " ++
            toString limit.maxRequests ++ " requests per " ++ toString limit.windowSeconds ++ "s")
            limit.retryAfter)
        else .ok ())
  else (redis, .ok ())

/-- `rate_limit`: by address always, and by user where the caller is known. -/
def rateLimit (rateLimitEnabled : Bool) (limit : Limit) (ip userId : Option String)
    (c c' : LimitCall) (redis : Option Redis) : Option Redis × Except AppError Unit :=
  let address := (ip.filter (· ≠ "")).getD "unknown"
  match checkLimit rateLimitEnabled limit ("ip:" ++ address) c redis with
  | (redis, .error e) => (redis, .error e)
  | (redis, .ok ()) =>
    match userId.filter (· ≠ "") with
    | none => (redis, .ok ())
    | some u => checkLimit rateLimitEnabled limit ("user:" ++ u) c' redis

/-- A call is refused. -/
def refuses (limit : Limit) (subject : String) (c : LimitCall) (r : Redis) : Bool :=
  match (checkLimit true limit subject c (some r)).2 with
  | .error _ => true
  | .ok () => false

/-- The address a request is counted under. -/
def addressSubject (ip : Option String) : String := "ip:" ++ (ip.filter (· ≠ "")).getD "unknown"

/-- The store after a sequence of calls, the oldest first. -/
def afterCalls (limit : Limit) (subject : String) (r : Redis) (calls : List LimitCall) : Redis :=
  calls.foldl (fun r c => (checkLimit true limit subject c (some r)).1.getD r) r

/-- The calls of a sequence that are not refused. -/
def admitted (limit : Limit) (subject : String) (r : Redis) : List LimitCall → List LimitCall
  | [] => []
  | c :: cs =>
    (if refuses limit subject c r then [] else [c]) ++
      admitted limit subject (afterCalls limit subject r [c]) cs

/-- The calls in the window of a reading. -/
def Limit.inWindow (l : Limit) (nowMs : ℕ) (calls : List LimitCall) : List LimitCall :=
  calls.filter fun c => decide (nowMs < c.nowMs + l.windowSeconds * 1000 ∧ c.nowMs ≤ nowMs)

section Limiter

variable {limit : Limit} {subject : String} {r : Redis} {calls : List LimitCall} {c c' : LimitCall}

/-- Members with different digits are different. -/
theorem LimitCall.suffix_eq_of_member (h : c.member = c'.member) : c.suffix = c'.suffix := by
  have hlist := congrArg String.toList h
  simp only [member, String.toList_append] at hlist
  refine String.toList_inj.mp (List.append_inj_right' hlist ?_)
  rw [String.length_toList, String.length_toList, c.suffix_length, c'.suffix_length]

/-- What a sequence of calls has added, the newest first. -/
def added (calls : List LimitCall) : List (String × ℕ) :=
  (calls.map fun c => (c.member, c.nowMs)).reverse

theorem added_snoc (calls : List LimitCall) (c : LimitCall) :
    added (calls ++ [c]) = (c.member, c.nowMs) :: added calls := by simp [added]

theorem added_nodup (hfresh : (calls.map LimitCall.suffix).Nodup) :
    ((added calls).map Prod.fst).Nodup := by
  have hmap : (added calls).map Prod.fst = (calls.map LimitCall.member).reverse := by simp [added]
  rw [hmap, List.nodup_reverse]
  refine List.Nodup.map_on ?_ (List.Nodup.of_map _ hfresh)
  intro c hc c' hc' h
  exact List.inj_on_of_nodup_map hfresh hc hc' (LimitCall.suffix_eq_of_member h)

theorem recent_added (limit : Limit) (nowMs : ℕ) (hpast : ∀ c ∈ calls, c.nowMs ≤ nowMs) :
    (SortedSet.recent (added calls) (limit.windowSeconds * 1000) nowMs).length =
      (limit.inWindow nowMs calls).length := by
  have hin : limit.inWindow nowMs calls =
      calls.filter fun c => decide (nowMs < c.nowMs + limit.windowSeconds * 1000) :=
    List.filter_congr fun c hc => by simp [hpast c hc]
  rw [hin, SortedSet.recent, added, List.filter_reverse, List.length_reverse, List.filter_map,
    List.length_map]
  rfl

theorem afterCalls_snoc (calls : List LimitCall) (c : LimitCall) :
    (afterCalls limit subject r (calls ++ [c])).zset (limit.key subject) =
      (limit.pipeline c ((afterCalls limit subject r calls).zset (limit.key subject))).1 := by
  simp [afterCalls, checkLimit]

/-- **The set of the bucket knows the window of the whole sequence of calls.** -/
theorem tracks_afterCalls (hr : r.zset (limit.key subject) = .empty)
    (hmono : calls.Pairwise fun c c' => c.nowMs ≤ c'.nowMs) :
    ∀ nowMs, (∀ c ∈ calls, c.nowMs ≤ nowMs) →
      SortedSet.Tracks ((afterCalls limit subject r calls).zset (limit.key subject)) (added calls)
        (limit.windowSeconds * 1000) nowMs := by
  induction calls using List.reverseRecOn with
  | nil =>
    intro nowMs _
    have hempty := SortedSet.Tracks.empty (μ := String) (limit.windowSeconds * 1000) nowMs
    simpa [afterCalls, added, hr] using hempty
  | append_singleton calls c ih =>
    intro nowMs hle
    rw [List.pairwise_append] at hmono
    have hpast : ∀ c' ∈ calls, c'.nowMs ≤ c.nowMs := fun c' hc' => hmono.2.2 c' hc' c (by simp)
    have hbefore := (ih hmono.1 c.nowMs hpast).live.trim
    rw [afterCalls_snoc, added_snoc]
    refine (hbefore.add c.member ?_).later (hle c (by simp))
    omega

/-- A call is refused iff `max_requests` calls before it are in its window. -/
theorem refuses_iff (hr : r.zset (limit.key subject) = .empty)
    (hmono : (calls ++ [c]).Pairwise fun c c' => c.nowMs ≤ c'.nowMs)
    (hfresh : ((calls ++ [c]).map LimitCall.suffix).Nodup) :
    refuses limit subject c (afterCalls limit subject r calls) = true ↔
      limit.maxRequests ≤ (limit.inWindow c.nowMs calls).length := by
  rw [List.pairwise_append] at hmono
  have hpast : ∀ c' ∈ calls, c'.nowMs ≤ c.nowMs := fun c' hc' => hmono.2.2 c' hc' c (by simp)
  have htracks := (tracks_afterCalls hr hmono.1 c.nowMs hpast).live
  have hnodup := added_nodup hfresh
  rw [added_snoc] at hnodup
  have hcount := htracks.zcard_add_fresh hnodup
  rw [recent_added limit c.nowMs hpast] at hcount
  have hpipeline : (limit.pipeline c ((afterCalls limit subject r calls).zset
      (limit.key subject))).2 = (limit.inWindow c.nowMs calls).length + 1 := hcount
  rw [← Nat.lt_add_one_iff, ← hpipeline]
  by_cases hlt : limit.maxRequests < (limit.pipeline c ((afterCalls limit subject r calls).zset
    (limit.key subject))).2 <;> simp [refuses, checkLimit, hlt]

theorem afterCalls_append (calls calls' : List LimitCall) :
    afterCalls limit subject r (calls ++ calls') =
      afterCalls limit subject (afterCalls limit subject r calls) calls' :=
  List.foldl_append ..

theorem admitted_append (calls calls' : List LimitCall) : ∀ r : Redis,
    admitted limit subject r (calls ++ calls') = admitted limit subject r calls ++
      admitted limit subject (afterCalls limit subject r calls) calls' := by
  induction calls with
  | nil => exact fun r => rfl
  | cons c cs ih =>
    intro r
    have hafter : afterCalls limit subject r (c :: cs) =
        afterCalls limit subject (afterCalls limit subject r [c]) cs := afterCalls_append [c] cs
    rw [List.cons_append, admitted, admitted, ih, hafter, List.append_assoc]

theorem admitted_sublist (calls : List LimitCall) : ∀ r : Redis,
    (admitted limit subject r calls).Sublist calls := by
  induction calls with
  | nil => exact fun r => .slnil
  | cons c cs ih =>
    intro r
    have hrest := ih (afterCalls limit subject r [c])
    rw [admitted]
    split
    · exact hrest.cons c
    · exact hrest.cons_cons c

/-- Times that are less than the window apart hold at most `max_requests` admitted calls. -/
theorem admitted_le {I : ℕ → Prop} [DecidablePred I]
    (hI : ∀ t t', I t → I t' → t' < t + limit.windowSeconds * 1000)
    (hr : r.zset (limit.key subject) = .empty)
    (hmono : calls.Pairwise fun c c' => c.nowMs ≤ c'.nowMs)
    (hfresh : (calls.map LimitCall.suffix).Nodup) :
    ((admitted limit subject r calls).filter fun c => decide (I c.nowMs)).length ≤
      limit.maxRequests := by
  induction calls using List.reverseRecOn with
  | nil => exact Nat.zero_le _
  | append_singleton calls c ih =>
    have hbefore := List.pairwise_append.mp hmono
    have hrest := ih hbefore.1 (hfresh.sublist ((List.sublist_append_left ..).map _))
    rw [admitted_append, List.filter_append, List.length_append]
    by_cases hc : refuses limit subject c (afterCalls limit subject r calls) = true ∨ ¬ I c.nowMs
    · -- the last call is refused, or at another time
      have hnone : (admitted limit subject (afterCalls limit subject r calls) [c]).filter
          (fun c => decide (I c.nowMs)) = [] := by
        rcases hc with hc | hc
        · simp [admitted, hc]
        · exact List.filter_eq_nil_iff.mpr fun c' hc' => by
            obtain rfl := List.mem_singleton.mp ((admitted_sublist [c] _).subset hc')
            simpa using hc
      simpa [hnone] using hrest
    · -- it is admitted: the others are in its window, which still had room
      rw [not_or, not_not] at hc
      have hroom := mt (refuses_iff hr hmono hfresh).mpr hc.1
      have hin : ((admitted limit subject r calls).filter fun c => decide (I c.nowMs)).length ≤
          (limit.inWindow c.nowMs calls).length := by
        refine (((admitted_sublist calls r).filter _).length_le).trans ?_
        rw [Limit.inWindow, ← List.countP_eq_length_filter, ← List.countP_eq_length_filter]
        refine List.countP_mono_left fun c' hc' h => decide_eq_true ⟨?_, ?_⟩
        · exact hI _ _ (of_decide_eq_true h) hc.2
        · exact hbefore.2.2 c' hc' c (by simp)
      have hone : ((admitted limit subject (afterCalls limit subject r calls) [c]).filter
          fun c => decide (I c.nowMs)).length ≤ 1 := by
        refine (List.length_filter_le ..).trans ?_
        exact (admitted_sublist [c] _).length_le
      omega

end Limiter

/-! ### The two checks of a request -/

section Request

variable {limit : Limit} {subject : String} {r : Redis} {ip userId : Option String}
  {c c' : LimitCall}

theorem Limit.key_injective {subject' : String} (h : limit.key subject = limit.key subject') :
    subject = subject' := by simpa [Limit.key] using h

/-- A user is never counted under an address. -/
theorem Limit.key_user_ne (limit : Limit) (ip : Option String) (u : String) :
    limit.key ("user:" ++ u) ≠ limit.key (addressSubject ip) := by
  intro h
  have hchars := congrArg String.toList (Limit.key_injective h)
  simp [addressSubject] at hchars

/-- Whether a call is refused is up to the set of its own subject. -/
theorem refuses_congr {r' : Redis}
    (h : r'.zset (limit.key subject) = r.zset (limit.key subject)) :
    refuses limit subject c r' = refuses limit subject c r := by
  simp [refuses, checkLimit, h]

theorem checkLimit_snd_eq_ok :
    (checkLimit true limit subject c (some r)).2 = .ok () ↔ refuses limit subject c r = false := by
  unfold refuses
  cases (checkLimit true limit subject c (some r)).2 <;> simp

/-- A check writes no set but that of its subject. -/
theorem zset_afterCalls_ne {key : String} (hkey : key ≠ limit.key subject) :
    (afterCalls limit subject r [c]).zset key = r.zset key := by
  simp [afterCalls, checkLimit, Redis.zset_setZset_ne _ _ hkey]

/-- **A request passes iff its address does and, where it has one, its user does.**  The
check of the address leaves the user's window alone. -/
theorem rateLimit_ok_iff :
    (rateLimit true limit ip userId c c' (some r)).2 = .ok () ↔
      refuses limit (addressSubject ip) c r = false ∧
        ∀ u, userId = some u → u ≠ "" → refuses limit ("user:" ++ u) c' r = false := by
  have hlater : ∀ u, refuses limit ("user:" ++ u) c' (afterCalls limit (addressSubject ip) r [c]) =
      refuses limit ("user:" ++ u) c' r := fun u =>
    refuses_congr (zset_afterCalls_ne (limit.key_user_ne ip u))
  rw [← checkLimit_snd_eq_ok]
  unfold rateLimit
  dsimp only
  split
  · next redis e hcheck =>
    have hrefused : (checkLimit true limit (addressSubject ip) c (some r)).2 = .error e :=
      congrArg Prod.snd hcheck
    simp [hrefused]
  · next redis hcheck =>
    obtain rfl : redis = some (afterCalls limit (addressSubject ip) r [c]) :=
      (congrArg Prod.fst hcheck).symm
    have hpassed : (checkLimit true limit (addressSubject ip) c (some r)).2 = .ok () :=
      congrArg Prod.snd hcheck
    cases userId with
    | none => simp [hpassed]
    | some u =>
      by_cases hu : u = ""
      · simp [hu, hpassed, Option.filter]
      · simp [hu, hpassed, checkLimit_snd_eq_ok, hlater, Option.filter]

/-- No bucket of `LIMITS` refuses its first request. -/
theorem limits_pass_first (hlimit : limit ∈ limits) :
    (rateLimit true limit ip userId c c' (some .empty)).2 = .ok () := by
  have hpos : 0 < limit.maxRequests := by
    simp only [limits, List.mem_cons, List.not_mem_nil, or_false] at hlimit
    rcases hlimit with rfl | rfl | rfl | rfl | rfl | rfl | rfl <;> decide
  have hfirst : ∀ subject c, refuses limit subject c .empty = false := by
    intro subject c
    have hiff : refuses limit subject c (afterCalls limit subject .empty []) = true ↔
        limit.maxRequests ≤ (limit.inWindow c.nowMs []).length :=
      refuses_iff rfl (by simp) (by simp)
    have hnot := mt hiff.mp (by simpa [Limit.inWindow, Nat.pos_iff_ne_zero] using hpos)
    simpa [afterCalls] using hnot
  exact rateLimit_ok_iff.mpr ⟨hfirst _ c, fun u _ _ => hfirst _ c'⟩

end Request

/-- **The sliding window is exact.**  Where the readings do not go back and no two calls
draw the same digits, a call is refused iff at least `max_requests` earlier calls,
admitted or refused, have a reading in its window; so in every half-open interval as long
as the window, wherever it starts, at most `max_requests` calls are admitted. -/
theorem sliding_window_exact (limit : Limit) (subject : String) (r : Redis)
    (calls : List LimitCall) (hr : r.zset (limit.key subject) = .empty)
    (hmono : calls.Pairwise fun c c' => c.nowMs ≤ c'.nowMs)
    (hfresh : (calls.map LimitCall.suffix).Nodup) :
    (∀ earlier c later, calls = earlier ++ c :: later →
      (refuses limit subject c (afterCalls limit subject r earlier) = true ↔
        limit.maxRequests ≤ (limit.inWindow c.nowMs earlier).length)) ∧
    ∀ a : ℤ,
      ((admitted limit subject r calls).filter fun c =>
        decide (a < c.nowMs ∧ (c.nowMs : ℤ) ≤ a + limit.windowSeconds * 1000)).length ≤
          limit.maxRequests ∧
      ((admitted limit subject r calls).filter fun c =>
        decide (a ≤ c.nowMs ∧ (c.nowMs : ℤ) < a + limit.windowSeconds * 1000)).length ≤
          limit.maxRequests := by
  refine ⟨?_, fun a => ⟨?_, ?_⟩⟩
  · rintro earlier c later rfl
    have hfirst : (earlier ++ [c]).Sublist (earlier ++ c :: later) :=
      (List.singleton_sublist.mpr List.mem_cons_self).append_left earlier
    exact refuses_iff hr (hmono.sublist hfirst) (hfresh.sublist (hfirst.map _))
  · refine admitted_le (I := fun t => a < t ∧ (t : ℤ) ≤ a + limit.windowSeconds * 1000) ?_ hr
      hmono hfresh
    rintro t t' ⟨hlt, -⟩ ⟨-, hle⟩
    omega
  · refine admitted_le (I := fun t => a ≤ t ∧ (t : ℤ) < a + limit.windowSeconds * 1000) ?_ hr
      hmono hfresh
    rintro t t' ⟨hle, -⟩ ⟨-, hlt⟩
    omega

/-- Twelve logins, half a minute apart. -/
def dozenLogins : List LimitCall :=
  [⟨0, "00000000", rfl⟩, ⟨30000, "00000001", rfl⟩, ⟨60000, "00000002", rfl⟩,
    ⟨90000, "00000003", rfl⟩, ⟨120000, "00000004", rfl⟩, ⟨150000, "00000005", rfl⟩,
    ⟨180000, "00000006", rfl⟩, ⟨210000, "00000007", rfl⟩, ⟨240000, "00000008", rfl⟩,
    ⟨270000, "00000009", rfl⟩, ⟨300000, "0000000a", rfl⟩, ⟨300001, "0000000b", rfl⟩]

/-- At 300 s the first login has just left the window; the one after it has not. -/
theorem sliding_window_exact_logins :
    (∀ earlier c later, dozenLogins = earlier ++ c :: later →
      (refuses ⟨"login", 10, 300⟩ "ip:203.0.113.7" c
          (afterCalls ⟨"login", 10, 300⟩ "ip:203.0.113.7" .empty earlier) = true ↔
        10 ≤ ((⟨"login", 10, 300⟩ : Limit).inWindow c.nowMs earlier).length)) ∧
    ∀ a : ℤ,
      ((admitted ⟨"login", 10, 300⟩ "ip:203.0.113.7" .empty dozenLogins).filter fun c =>
        decide (a < c.nowMs ∧ (c.nowMs : ℤ) ≤ a + (300 : ℕ) * 1000)).length ≤ 10 ∧
      ((admitted ⟨"login", 10, 300⟩ "ip:203.0.113.7" .empty dozenLogins).filter fun c =>
        decide (a ≤ c.nowMs ∧ (c.nowMs : ℤ) < a + (300 : ℕ) * 1000)).length ≤ 10 :=
  sliding_window_exact ⟨"login", 10, 300⟩ "ip:203.0.113.7" .empty dozenLogins rfl
    (by decide) (by decide)

end SkyLock
