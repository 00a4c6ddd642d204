import Courier.Registry

/-!
# Adding and removing in steps

Adding and removing a subscription takes three steps, and other calls may run between them: the
registry is changed, the request is made of the broker, and if it is refused the registry is
changed back. No lock is held from one step to the next.
-/

namespace Courier

/-- A link to a broker: the answer to a request, and the link afterwards. -/
abbrev LinkAnswers (σ : Type) := Request → σ → Except Fault Unit × σ

/-- How far a call has come. -/
inductive Change where
  | add (filter : String) (guarantee : Guarantee) (delivery : Delivery)
  | entered (filter : String) (guarantee : Guarantee)
  | addRefused (filter : String) (fault : Fault)
  | remove (filter : String)
  | takenOut (filter : String) (id : SubscriptionId)
  | removeRefused (filter : String) (id : SubscriptionId) (fault : Fault)
  | finished (result : Except Fault Unit)

namespace Change

variable {σ : Type}

/-- The next step of a call. -/
def step (link : LinkAnswers σ) : Change → Registry × σ → Change × Registry × σ
  | .add filter guarantee delivery, (r, l) =>
    match checkFilter filter with
    | .error fault => (.finished (.error fault), r, l)
    | .ok () =>
      match r.enter filter delivery with
      | .error fault => (.finished (.error fault), r, l)
      | .ok r => (.entered filter guarantee, r, l)
  | .entered filter guarantee, (r, l) =>
    match link (.subscribe filter guarantee) l with
    | (.ok (), l) => (.finished (.ok ()), r, l)
    | (.error fault, l) => (.addRefused filter fault, r, l)
  | .addRefused filter fault, (r, l) => (.finished (.error fault), r.erase filter, l)
  | .remove filter, (r, l) =>
    match r.takeOut filter with
    | .error fault => (.finished (.error fault), r, l)
    | .ok (id, r) => (.takenOut filter id, r, l)
  | .takenOut filter id, (r, l) =>
    match link (.unsubscribe filter) l with
    | (.ok (), l) => (.finished (.ok ()), r, l)
    | (.error fault, l) => (.removeRefused filter id fault, r, l)
  | .removeRefused filter id fault, (r, l) =>
    (.finished (.error fault), r.putBack filter id, l)
  | .finished result, (r, l) => (.finished result, r, l)

/-- A call from its first step to its last, with nothing in between. -/
def run (link : LinkAnswers σ) (c : Change) (r : Registry) (l : σ) :
    Except Fault Unit × Registry × σ :=
  let (c, r, l) := c.step link (r, l)
  let (c, r, l) := c.step link (r, l)
  match c.step link (r, l) with
  | (.finished result, r, l) => (result, r, l)
  | (_, r, l) => (.ok (), r, l)

end Change

namespace Registry

variable {σ : Type}

def add (link : LinkAnswers σ) (filter : String) (guarantee : Guarantee) (delivery : Delivery)
    (r : Registry) (l : σ) : Except Fault Unit × Registry × σ :=
  (Change.add filter guarantee delivery).run link r l

def remove (link : LinkAnswers σ) (filter : String) (r : Registry) (l : σ) :
    Except Fault Unit × Registry × σ :=
  (Change.remove filter).run link r l

end Registry

end Courier
