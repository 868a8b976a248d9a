import Retry.Unicode.Runs

/-! The version of the standard in which a code point was assigned. -/
namespace Retry.Unicode

def ageTable : List String :=
  [
    "dyA04A3uA08A31A51A6iA33A6bA7eA82hA05A32A61bA01A3aA05A3hA61yA09A31A58A65A73A62A01A3dA54A92A02",
    "A92Z01A03A81A01B54Z07A01Z01A01Z0kA01Z018A01A97A01A32A51A01A31A01A31A01A31A01A3iA02A41A55A64A",
    "71A3cA01A31uA01A3cA01A315A01A92A32A54A31hA02A52A02A52A02A51A8sA02A38A02A72A06A8gA54A8gA92B02",
    "B18B51Z012A02Z07A01B913A01B91A01A32Z02B51B21Z0hA11A7dA1aA01A89A01A13A78Z0rA04Z01B95A0bZ04A61",
    "B21B55A91A71A09A65A91A01B41C31A71A01B1qA05A9jA03A33A66A71B1eA02A520A02A35A01A3fA01A3uA02A6aA",
    "05A31A6eA31Z0uA33A6rA32Z03A6uA7iA91dA31A5eZ01nA82Z03B91aB02Z0fB01Z0sB12Z01B11Z0bB85Z0vC31Z02",
    "C35Z01C68C31B21B5bB26B52B61C38B7aC2bC31B9fB71B6rB21B51B03A01A61hA02B1iA01B01B15A01B02B1pA02A",
    "95B11B52B02A81A72A81B53A01Z08A02Z02A02Z0mA01Z07A01Z01A03Z04A02Z01A01A67A02Z02A02Z03A01A78Z01",
    "A04Z02A01Z05A02Z0lA01B02B81B92Z01A61A01A61Z06A04Z02A02Z0mA01Z07A01Z02A01Z02A01Z02A02Z01A01Z0",
    "5A04Z02A02Z03A03Z01A97Z04A01Z01A07Z0fA01A91B9aZ03A01Z07A01A61A01Z03A01Z0mA01Z07A01Z02A01Z05A",
    "02Z0aA01Z03A01Z03A02Z01A0fZ01A03A62Z0aA01B21A67Z01B66B81Z03A01Z08A02Z02A02Z0mA01Z07A01Z02A01",
    "Z01A64A02Z08A01A92Z02A02Z03A07Z01C22A04Z02A01Z03A02A92Z0bA01A66B1aZ02A01Z06A03Z03A01Z04A03Z0",
    "2A01Z01A01Z02A03Z02A03Z03A03Z08A01A73A04Z05A03Z03A01Z04A02Z01A96Z01A0eZ01A7cA08A65Z01B53A01B",
    "98A01Z03A01Z0nA01Z0aA01B55A02Z01C31A97A01Z03A01Z04A07Z02A01Z02A91B62Z01C32Z02A02A92Z0aA07Z01",
    "C08A91B71B52A01B98A01Z03A01Z0nA01Z0aA01Z05A02Z02A67A01Z03A01Z04A07Z02A06Z01C31A01Z02A02A82Z0",
    "aA01Z02A81C4cZ01B81B52A01C28A01Z03A01Z0nA01B1gA01B12B81A96A01A91Z03A01Z04A01B11B74Z03B71A07B",
    "71B62A02A92Z0aA06A93B77A91Z01C22A31Z0iA33Z0oA31Z09A31Z01A32Z07A33Z01A34Z06A31Z01A31Z08A36Z0a",
    "B52Z03A3cZ01mA04Z0tA011Z02A01Z01A01Z01C02A01C01A01Z01C01A06C04A01C07A01C03A01Z01A01Z01A02C02",
    "A01C0dA01C03A02Z05A01Z01A01Z06A01C41Z0aA02Z02A02B2wZ020A11Z0xA11A32A94Z0rA14B16A11A31A11Z0lA",
    "13A37A11A31A13A31Z0fA31Z01A91A32A73A94B02B111Z0yA31A95A31A92A31A97A33A94A36A9qA31sA94B02A912",
    "A01Z01B25Z01B22Z013A02A52A71A01A73B22iA05B01wA05B02aA06B07A31A71rA31A71A31Z04A32Z07A31Z01A31",
    "Z04A32Z013A31A71A31Z04A32Z0vA31A71A31Z04A32Z07A31Z01A31Z04A32Z07A31A77A31Z0nA31A7vA31A71A31Z",
    "04A32Z07A31A713A31A7jA32Z02B12A7sA33Z0qA76Z02dA31B62Z06B62Z01B0hiA39B0tA33Z029A38B57Z0dA51C3",
    "7A51C39Z01C3nA59Z0kA5cZ0dA51Z03A51Z02A5cZ02lA31A62Z0aA36Z0aA66Z0fA31C3aA36Z02gA31B97Z016A31A",
    "95Z01yB0aZ0tA62B51Z0cA64Z0cA64Z01A63Z016A62Z05A6bZ016A72B04Z0qA76Z0aA71B03Z02A7wA6sA72Z02A71",
    "rB01Z0tB02Z0bB06Z0aB06Z0eB02Z0fB52C2eC31dZ024A81C31Z02C619A82C31C617A93B2cA96B21gB18Z04B11kA",
    "93Z0fA93Z01fA99B72C65Z017B92Z03B98B28Z0zB04B21B82B51C05Z030A62gA77A8sA9fB54B81C31B71B11B02A8",
    "4bA01A14A92iA06A9mA02Z06A02Z012A02Z06A02Z08A01Z01A01Z01A01Z01A01Z0vA02Z01hA01Z0fA01Z0eA02Z06",
    "A01Z0jA02Z03A01Z09A01Z01bA01A3nA01A56A35A52A62A71A57A75A51A91Z04B47A01A52Z0rA01Z05A78B13Z0bA",
    "01A11A23A32A54A73B01B11B33B51B61B81C3fZ0iA02A37A51A74A81A9fZ01lA02A31A61A7fA51A72A81A93B01cA",
    "01A31A84A91B02B64Z02jA09A3cA56qA0eA51A01A33dA01A31A5uA31gA52A6bA7cA81B0bB17B54B71B811A02A33C",
    "6mZ0bA0lZ03vA0kA51A646A0aA528A08A38A5kA02A62A51A71A32eA02A3cA52A7aA58A6bA71A92B02A6gA71A8aA9",
    "3B04A9aB01B1jB01B11B04B1oB01B54A01B14A02B1sA01B1zA01B11A01B14A03B11A01B07A02B17A0eA5vA03B1oA",
    "01B1eA01B17A74A81B21A91B22B1sA54A9gA574A3e8A5eA66A77A85A94A815A93B55A95B0qB52Z0wB51Z01C2yB53",
    "B9cB51C08B51B8pB94B6fB91C01bA71C31bA71C3dA83A91B03A94A86A92B02zA77B02B25Z019A71Z01B25Z01B22Z",
    "01iA72B27Z01A71B1eZ01B1nA79Z07A71Z07A71Z07A71Z07A71Z07A71Z07A71Z07A71Z07A71Z0wA9oA74A92A7jA9",
    "1B0aB27B52B75B85B91C03C2bC3yZ0qA31Z02hA3cZ05yA3qZ0cA34C51kA03A33A51A31A01Z02cA02A52Z06A02A52",
    "mA01A55Z014A01A91B81B91Z02mA01Z0gA0oA33B15C2gA7kA92C69Z01C5gA5tA02A61Z010A0cB01A6fA5sA02A61A",
    "71eA0fA5cA04A61bA01C13bA04A62rA02A6vA01A652uA3aC21sA6g4mA0mA78A98B01B29B6lB85B9dC23C3wdA33Z0",
    "iA32A5gA31A5cA31A53A31A51A39Z01cB08cA9kZ0wA92B1iA98B2sA96B51B61B22gB08Z0nA74A85A92A82zA92B11",
    "B62B12B2cB5aB11B23B51B71B92B56B62B96C02C35C04C23C62Z02C31Z01C31Z05C33C6lZ03C32C21B52B21B15A9",
    "18A71C23Z0aB06Z01kA88Z01xA91B78Z0cA96Z0sB02B62B92cA9bZ01A9tB03Z026B01Z0bB04Z02B0vB51Z01jA99Z",
    "0eA92Z0aA92Z04A9sB04B51vB0oZ05B0nB2aZ06B12Z06B12Z06B19Z07B11Z07B11Z01cB54B62B52C04C24Z028B61",
    "aB02Z0aB06Z08mcA1cZ0nB04Z01dB04Z01kwA1566A02B21nA53B02Z02yA712Z07A0cZ05A05Z01A3pA01Z05A01Z01",
    "A01Z02A01Z02A01Z030A0gB11C3gZ0a5A0gC31sA02Z01iA07Z01C3wA4cA01A51A62C3gA5aA76Z04A03A97B52B6lA",
    "02A52A6aA01Z0jA01Z04A04Z03A01A51A01Z03rA02Z01A01Z02mA02A52mA03Z06A02Z06A02Z06A02Z03A03Z07A01",
    "Z07A0aZ03A31A23A0cA61Z0qA61Z0jA61Z02A61Z0fA62Z0eA6yZ03fA65Z03A64Z019A63Z09A623A72B52B71Z0cA9",
    "1C23Z01B51bZ01aA93mZ0tA93Z01dA9fZ0sB54Z0vA41B54A49Z03B8rA45Z017B55Z0uA61Z01A610A74Z0eA716Z01",
    "2A42A612A428A62Z0aA66Z010B74Z010B74Z014B58Z01gB5bZ01B5bC31Z0fC31Z07C31Z02C31Z0bC31Z0fC31Z07C",
    "31Z02C33Z01gC6cZ08nB59Z0mB5aZ08B5oZ06C31Z016C31Z09C31xZ06A62Z01A61Z018A61Z02A63Z01A62Z01A6mB",
    "01Z09B01rB58Z09B51cZ0jB61Z02B65Z05B6qA82B03Z01A8qA95Z01A91sZ01kB24Z02B62B2gB62Z01aB64A71Z02A",
    "75Z08A71Z03A71Z0rA72B92Z03A74Z09A71B97Z09A77Z0wB0wB5wZ013B54Z0cB59Z01iB03Z0tB02Z0rB05Z08B0iB",
    "57Z04B5cZ07B528Z021B01jZ01fB6dZ01fB67Z06B614B98Z0aB96Z012C63Z0tC68Z02C65sZ0vB01Z016C21Z03C22",
    "Z02C2gZ03C61jZ01C63C414B98Z016B9mZ0qC312Z0sC2kZ0nC09Z026B14Z0uB16C39Z01B51uB01C3aZ01B92Z0pB2",
    "7Z0aB26Z01hB21Z0eB23B91C28Z013B59Z021B24B61B52C2aB21B55B61Z0kB5bZ0iB51Z017B51B73C41qZ07B61Z0",
    "1B61Z04B61Z0fB61Z0bB66Z01nB55Z0aB56Z01B63B51Z08B52Z02B52Z0mB51Z07B51Z02B51Z05B51Z01B99B52Z02",
    "B52Z03B52Z01B66Z01B55Z07B52Z07B53Z05B5bZ0aC61Z01C62Z01C61Z012C61Z0aC61Z01C62Z01C61Z04C61Z0aC",
    "61Z02C68Z02C6tZ02iB71C21B71Z01B71B91C02C2uZ020B58Z0aB54mZ01iB52Z0iB5kB6yZ01xB5bZ0aB56Z0dB7jZ",
    "01kB21C01C36Z0aB26Z0kC6sZ0qB61B92Z0fB64Z0gB67C355Z01oB92sZ02bB5cZ01B57C22Z01C22Z08C21Z02C21Z",
    "0uC21Z02C22Z0cC29Z0aC21yZ08C02Z01aC02Z0bC0rZ020B88Z01gB82C0nB81B95B8dZ0gC31lB57Z0aC452Z0yC6e",
    "Z0aC66Z09B71Z019B71Z0eB7aZ0tB73Z0wB72Z0mB71Z0eB721Z07B81Z02B81Z018B83Z01B81Z02B81Z09B88Z0aB8",
    "6Z06B91Z02B91Z011B91Z02B91Z06B97Z0aB98mZ0pB97Z0hC41Z015C43Z0sC41C62dZ01C2fZ01eC0dZ01C0ofA816",
    "B51B62uZ02rA8cB51Z04A81B5bZ05gB6218Z02rC3dZ0trB01C49C0tC4aZ032zC65Z0g7B65a1Z01mC61c6Z0ftB17Z",
    "0vB51Z0aB54Z02B527C31Z0aC36Z0uB52Z06B5aZ01yB5aZ0aB51Z07B51Z0lB55Z0jB5c0Z01mC65iZ02jB92tZ01xB",
    "26C04Z01C01bB29C07Z0hB21sZ01B71B82C01C2bZ02C2eZ04q5B75B96C08Z0kzB7dfC215Z01C69C26w7Z04C31Z07",
    "C31Z02C31Z02B17xB84C3fZ01C4tZ03C02Z01C4eZ04C08Z0b0B81s4Z02zB55Z0dB53Z09B57Z0aB52Z08B5318Z06y",
    "C66Z0c4C624Z01aC32Z0nC39Z038C31oZ06uA4aZ013A42Z01A950A4bB62C3lZ01yA73eZ0kC4cZ0kB9cZ02fA69Z0i",
    "A87B93rZ02dA41Z01zA41Z02A42Z01A42Z02A42Z04A41Z0cA41Z01A41Z04A41A62A41Z01tA41Z04A42Z08A41Z07A",
    "41Z0sA41Z04A41Z05A41Z01A43Z07A41Z09eA42A72Z082A42A82Z01eA4i4B6fZ05B61Z0fB6uoZ0vC36Z06C45xZ07",
    "B71Z0hB72Z07B71Z02B71Z05B75Z01qC4xZ01C434Z019C03Z0eC02Z0aC04Z02C08wZ0vC3hZ01mC05Z01C0cwZ016C",
    "45yZ017C64Z01C6dcZ07C31Z04C31Z02C31Z0fC31Z05hB52Z0gB515Z023B71C04Z0aB74Z02B7ltZ01wB924Z01pC0",
    "5eZ04B21Z0rB21Z02B21Z01B22Z01B21Z0aB21Z04B21Z01B21Z01B26Z01B24Z01B21Z01B21Z01B21Z03B21Z02B21",
    "Z01B22Z01B21Z01B21Z01B21Z01B21Z01B21Z02B21Z01B22Z04B21Z07B21Z04B21Z04B21Z01B21Z0aB21Z0hB25Z0",
    "3B21Z05B21Z0hB21gZ02B27iZ018A94Z02sA9cZ0fB12Z0eB11B51Z0fB11Z0fB1mB5aZ0bB02B53C2vB01B91B11B0b",
    "B11B01B11B02B11B03B11B03B15B08B11B07B11B0aB12B21C03C29B11B01B12B02B11B0aB14B02B11B0aB1iB71C2",
    "1kZ0qB11B02B1dZ0yB09B11B74Z09B07Z02B1eZ06B84aZ0xB1cB53B66B11B51yB11B52B6kB1cB511B11B55B14B55",
    "B6cB5hB17B58B61rB11B51B11B552B11B54B12B51B61qB12B54B27B55B6oB1iB51B715B51B72eB55B11B2gB11B23",
    "B11B21B11B21B11B21B11B23B11B26B12B24B11B21B12B24B11B2cB12B52B6bB11cB51yB1aB51B62B72B81C02C24",
    "Z01C43C3dB53Z04B53B72B81B91C02C23Z038B13C44Z05C42dB54B91C46Z0cC04Z01C3fZ0cB54Z01kB58Z0aB56Z0",
    "14B58Z0uB52Z02C2aC64Z02C61qZ0cB81C23C09B66B71B88B78B81B72B8cB71C0cB71B83B9fB7dB85B91C01C24B9",
    "2C21C31B91C04B95B6dB76B8bB92C26C03C22C0aB96C01B62B98C01C21C33C0nB8pB92cC0cZ0eB92Z04C01C23C43",
    "C02C33Z03C04C22C41C65Z01C66C0jC24C33C47C24C33C41C61C43C23C31C67Z02C47C23C32C41C62Z01C68C31C4",
    "1C66Z07C32C47Z043C21Z01jC211C6aC2skZ02A1wyfA47C22C3wZ0379B04C31C46Z066B12Z04g2B6eZ05rlB8fZ0h",
    "aC51wiZ0f2A415sZ02A13t7C25Z038gC417imZ02A11ekeZ02A11ekeZ02A11ekeZ02A11ekeZ02A11ekeZ02A11ekeZ",
    "02A11ekeZ02A11ekeZ02A11ekeZ02A11ekeZ02A11Z01A4uZ02oA43kZ06oA61e6mZ02t4yA1"]

def ageRuns : Array Run := runs 2 ageTable

/-- The versions in their order, with their tags in the table. -/
def ages : List (String × String) :=
  [("1.1", "A0"), ("2.0", "A1"), ("2.1", "A2"), ("3.0", "A3"), ("3.1", "A4"), ("3.2", "A5"), ("4.0", "A6"), ("4.1", "A7"), ("5.0", "A8"), ("5.1", "A9"), ("5.2", "B0"), ("6.0", "B1"), ("6.1", "B2"), ("6.2", "B3"), ("6.3", "B4"), ("7.0", "B5"), ("8.0", "B6"), ("9.0", "B7"), ("10.0", "B8"), ("11.0", "B9"), ("12.0", "C0"), ("12.1", "C1"), ("13.0", "C2"), ("14.0", "C3"), ("15.0", "C4"), ("15.1", "C5"), ("16.0", "C6")]

/-- The code points assigned in the named version or before it. -/
def age? (name : String) : Option CharSet :=
  let index := ages.findIdx fun (version, _) =>
    version == name || "v" ++ String.ofList (version.toList.filter (· != '.')) == name
  if index < ages.length then some (select ageRuns ((ages.take (index + 1)).map (·.2))) else none

end Retry.Unicode
