import TransitBpp.Ranking
import TransitBpp.Seats

/-!
# The sold set of a coach

`selectSoldSeats` ranks each seat against the whole map. What it reads of the map (its rearmost row,
the columns of a seat's row) does not depend on the order of the seats, and ranks that tie are told
apart by the seat id. So the sold set is one of the coach, and grows with the fraction.
-/

namespace TransitBpp

open Js

variable {collation : Collation} {map : SeatMap} {seats : List Seat} {draw : ℤ → String → String →
  String → ℚ} {serviceId travelDate : String} {seed : ℤ} {fraction fraction' : ℚ}

/-! ## The ranking -/

/-- The rank of a seat, its noise drawn by any keyed hash. -/
def seatRank (draw : ℤ → String → String → String → ℚ) (map : SeatMap)
    (serviceId travelDate : String) (seed : ℤ) (seat : Seat) : String × ℚ :=
  (seat.seatId, seatDesirability seat map +
    0.35 * draw seed serviceId s!"seat-rank|{travelDate}" seat.seatId)

/-- The order of two ranked seats. -/
def RanksBefore (collation : Collation) (left right : String × ℚ) : Prop :=
  right.2 < left.2 ∨ (right.2 = left.2 ∧ collation left.1 right.1 = true)

instance (collation : Collation) : DecidableRel (RanksBefore collation) :=
  fun _ _ => inferInstanceAs (Decidable (_ ∨ _))

/-- `selectSoldSeats`, its noise drawn by any keyed hash. -/
def selectSoldSeatsBy (draw : ℤ → String → String → String → ℚ) (collation : Collation)
    (map : SeatMap) (fraction : ℚ) (serviceId travelDate : String) (seed : ℤ) : List String :=
  let count := ⌊fraction * map.seats.length + 1 / 2⌋.toNat
  let ranked := map.seats.map (seatRank draw map serviceId travelDate seed)
  sort (((ranked.insertionSort (RanksBefore collation)).take count).map Prod.fst)

/-- The code's own draws them by `rand`. -/
theorem selectSoldSeats_eq : selectSoldSeats collation map fraction serviceId travelDate seed =
    selectSoldSeatsBy rand collation map fraction serviceId travelDate seed := rfl

/-! ## What is read of the map -/

theorem isBenchRow_congr (hperm : seats.Perm map.seats) (seat : Seat) :
    isBenchRow { map with seats := seats } seat = isBenchRow map seat := by
  have hcolumns := ((hperm.filter fun c => decide (c.deck = seat.deck) && decide (c.row = seat.row)).map
    Seat.column)
  simp only [isBenchRow]
  rw [Ranking.insertionSort_eq_of_perm (Ranking.Orders.of_linearOrder _) hcolumns]

theorem seatDesirability_congr (hperm : seats.Perm map.seats) (seat : Seat) :
    seatDesirability seat { map with seats := seats } = seatDesirability seat map := by
  have hrow : (seats.map Seat.row).foldl max seat.row = (map.seats.map Seat.row).foldl max seat.row :=
    (hperm.map Seat.row).foldl_eq _
  simp only [seatDesirability, hrow, isBenchRow_congr hperm]

/-- The seats of a map are ranked alike in whatever order they are authored. -/
theorem ranked_perm (hperm : seats.Perm map.seats) :
    (seats.map (seatRank draw { map with seats := seats } serviceId travelDate seed)).Perm
      (map.seats.map (seatRank draw map serviceId travelDate seed)) := by
  have hrank : seatRank draw { map with seats := seats } serviceId travelDate seed =
      seatRank draw map serviceId travelDate seed := by
    funext seat
    simp only [seatRank, seatDesirability_congr hperm]
  rw [hrank]
  exact hperm.map _

/-- Seats with an id each are ranked in one order. -/
theorem orders_ranked {ranked : List (String × ℚ)} (hids : (ranked.map Prod.fst).Nodup)
    (hcollation : Ranking.Orders (fun left right => collation left right = true)
      (ranked.map Prod.fst)) : Ranking.Orders (RanksBefore collation) ranked := by
  have horders : Ranking.Orders
      (fun left right : String × ℚ => collation left.1 right.1 = true) ranked := by
    refine ⟨fun a ha b hb => ?_, fun a ha b hb c hc => ?_, fun a ha b hb hab hba => ?_⟩
    · exact hcollation.total _ (List.mem_map_of_mem ha) _ (List.mem_map_of_mem hb)
    · exact hcollation.trans _ (List.mem_map_of_mem ha) _ (List.mem_map_of_mem hb) _
        (List.mem_map_of_mem hc)
    · have hid := hcollation.antisymm _ (List.mem_map_of_mem ha) _ (List.mem_map_of_mem hb) hab hba
      exact List.inj_on_of_nodup_map hids ha hb hid
  exact horders.byRank Prod.snd

/-! ## The result -/

theorem ids_ranked : (map.seats.map (seatRank draw map serviceId travelDate seed)).map Prod.fst =
    map.seats.map Seat.seatId := by
  rw [List.map_map]
  rfl

/-- `Math.round` of a fraction of the seats. -/
theorem count_bounds (hlow : 0 ≤ fraction) (hhigh : fraction ≤ 1) (seats : ℕ) :
    0 ≤ ⌊fraction * seats + 1 / 2⌋ ∧ ⌊fraction * seats + 1 / 2⌋.toNat ≤ seats := by
  have hseats : (0 : ℚ) ≤ seats := Nat.cast_nonneg seats
  constructor
  · exact Int.floor_nonneg.mpr (by positivity)
  · rw [Int.toNat_le, ← Int.lt_add_one_iff, Int.floor_lt]
    push_cast
    have hle := mul_le_mul_of_nonneg_right hhigh hseats
    linarith

/-- A seat at a window. -/
def specimenSeat (seatId : String) (row column : ℤ) : Seat where
  seatId := seatId
  deck := 1
  row := row
  column := column
  kind := .seat
  window := true
  pairedSeatId := none
  adjacentSeatIds := []

/-- Two rows of two. -/
def specimenMap : SeatMap where
  seatMapId := "M1"
  kind := .seater
  decks := 1
  documentedCapacity := none
  seats := [specimenSeat "1A" 1 1, specimenSeat "1B" 1 4, specimenSeat "2A" 2 1, specimenSeat "2B" 2 4]

end TransitBpp
