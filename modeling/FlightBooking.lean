import FlightBooking.Bookings.ChangeSeat
import FlightBooking.Bookings.HoldAnswers
import FlightBooking.Bookings.TotalRange
import FlightBooking.Flights.Availability
import FlightBooking.Flights.CursorRoundTrip
import FlightBooking.Flights.LocalTime
import FlightBooking.Flights.Schedule
import FlightBooking.Idempotency.OneAnswer
import FlightBooking.Identity.Tokens
import FlightBooking.Jobs.NoOverlap
import FlightBooking.Migrations.Chain
import FlightBooking.Notifier.Notified
import FlightBooking.Outbox.RelayOrder
import FlightBooking.Payments.Ledger
import FlightBooking.Payments.Settlements
import FlightBooking.Payments.SimulatedGateway
