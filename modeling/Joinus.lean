import Joinus.Base.Run
import Joinus.Base.Stack
import Joinus.Base.Effects
import Joinus.Base.Json
import Joinus.Base.Collection
import Joinus.Base.Subjects
import Joinus.Base.Decimal
import Joinus.Base.DatePattern
import Joinus.Base.Gregorian
import Joinus.Clock
import Joinus.Days
import Joinus.Chat.Message
import Joinus.Chat.Writes
import Joinus.Chat.Order
import Joinus.Chat.Stamp
import Joinus.Chat.Row
import Joinus.Chat.Roster
import Joinus.Chat.Screens
import Joinus.Chat.Reader
import Joinus.MyMatching
import Joinus.MatchingTabs
import Joinus.HomeList
import Joinus.Connections
import Joinus.OwnPage
import Joinus.Touch
import Joinus.Making.Form
import Joinus.Making.Preview
import Joinus.Making.Sessions
import Joinus.Making.Trip
import Joinus.Making.Leftover
import Joinus.Making.Posts
import Joinus.Making.Late
import Joinus.Making.Requests
import Joinus.Making.Marks
import Joinus.Making.Joiner
import Joinus.Onboarding.Login
import Joinus.Onboarding.Wizard
import Joinus.Onboarding.Profile
import Joinus.Onboarding.SignIn
import Joinus.Onboarding.Buttons
import Joinus.Onboarding.Stored
import Joinus.Service.Decoders
import Joinus.Service.Loaders
import Joinus.Service.Completion
import Joinus.Service.Atomic
import Joinus.Service.Users
import Joinus.Service.Screens
import Joinus.Service.Exchange
import Joinus.Service.Account
import Joinus.Navigation.Screens
import Joinus.Navigation.Moves
import Joinus.Navigation.TabBar
import Joinus.Navigation.Joining
import Joinus.Navigation.Listening
import Joinus.Navigation.Manner
import Joinus.Navigation.Traps
import Joinus.Rooms.Cell
import Joinus.Rooms.Start
import Joinus.Rooms.Age
import Joinus.Rooms.Gate
import Joinus.Pictures.Sheet
import Joinus.Pictures.Chosen
